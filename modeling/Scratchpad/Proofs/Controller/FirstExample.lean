import Scratchpad.Proofs.Controller.Editor

/-!
# The first example

The first example of a catalog is fetched without anyone having asked for it. The fetch remembers
the program as it was when it began, and the answer is put into the editor only if the program is
still that one. So an edit outlives a start whenever it makes the program another one than it was
when the fetch began; one that was made before, while the manifest was being fetched, is part of
what the fetch remembers.
-/

set_option autoImplicit false

namespace Scratchpad.Controller

open Catalog (Example)

variable {μ : Type}

/-! ## What the fetch remembers -/

theorem firstExample_of_step {controller : Controller μ} {action : Action μ} {place : Nat}
    {entry : Example} {base : String}
    (fetching : (controller.step action).phase? place = some (.firstExample entry base)) :
    controller.phase? place = some (.firstExample entry base) ∨
      action = .proceed place ∧ controller.phase? place = some (.listed entry) ∧
        controller.session.program = base := by
  have stepped := step_phase controller action place
  generalize found : controller.phase? place = before at stepped
  generalize reached : (controller.step action).phase? place = after at stepped
  rw [reached] at fetching
  cases stepped with
  | same => exact .inl fetching
  | first first =>
    cases fetching
    cases Operation.isFirst first
  | @told previous event _ =>
    rcases previous.afterEvent_cases (controller.noticeOf event) event with
      ⟨_, _, next⟩ | ⟨_, next⟩ | next <;>
    · rw [next] at fetching
      cases fetching
  | moved moved =>
    cases moved with
    | listed =>
      cases fetching
      exact .inr ⟨rfl, rfl, rfl⟩
    | _ => cases fetching

/-- What the fetch of a first example remembers is the program of the session when it began. -/
theorem firstExample_begun {session : Session μ} {actions : List (Action μ)} {place : Nat}
    {entry : Example} {base : String}
    (fetching : (({ session } : Controller μ).run actions).phase? place =
      some (.firstExample entry base)) :
    ∃ earlier later, actions = earlier ++ .proceed place :: later ∧
      (({ session } : Controller μ).run earlier).phase? place = some (.listed entry) ∧
      (({ session } : Controller μ).run earlier).session.program = base := by
  have idle : ¬ ({ session } : Controller μ).phase? place = some (.firstExample entry base) := by
    simp [phase?]
  obtain ⟨earlier, action, later, rfl, before, after⟩ :=
    run_reaches (·.phase? place = some (.firstExample entry base)) idle fetching
  rcases firstExample_of_step after with still | ⟨rfl, listed, program⟩
  · exact absurd still before
  · exact ⟨earlier, later, rfl, listed, program⟩

/-! ## Choices -/

/-- A phase on the way of an example that the user chose. -/
def Phase.isChoice : Phase μ → Bool
  | .selecting _ | .unlisted _ | .chosenExample _ => true
  | _ => false

theorem Phase.closed_isChoice : Phase.Closed fun phase : Phase μ => phase.isChoice = true := by
  constructor
  · intro notice phase event choice
    rcases phase.afterEvent_cases notice event with ⟨_, _, next⟩ | ⟨_, next⟩ | next <;>
    · rw [next] at choice
      cases choice
  · intro controller place action phase between next moved choice
    cases moved with
    | found _ => rfl
    | missing _ => rfl
    | _ => cases choice

theorem not_isChoice_run {controller : Controller μ}
    (none : ∀ {place phase}, controller.phase? place = some phase → phase.isChoice = false)
    {actions : List (Action μ)}
    (unasked : ∀ operation, .begin operation ∈ actions →
      ∀ phase ∈ (operation.phases : List (Phase μ)), phase.isChoice = false)
    {place : Nat} {phase : Phase μ} (found : (controller.run actions).phase? place = some phase) :
    phase.isChoice = false := by
  induction actions generalizing controller with
  | nil => exact none found
  | cons action actions ih =>
    refine ih ?_ (fun operation begun => unasked operation (.tail _ begun)) found
    intro place phase reached
    rw [← Bool.not_eq_true]
    intro choice
    rcases Phase.closed_isChoice.before reached choice with
      ⟨previous, before, was⟩ | ⟨_, operation, rfl, first⟩
    · simp [none before] at was
    · simp [unasked operation (.head _) phase first] at choice

/-! ## Edits outlive a start -/

/-- The program is started, and the user edits it but chooses no example. Whenever the first
example arrives, the last edit by then has made the program another one than the example was
fetched for. Then the program is what the user typed last, and no example is selected: at any
time, and so when the start is over. -/
theorem edit_outlives_start {session : Session μ} (unselected : session.selected = none)
    {actions : List (Action μ)}
    (alone : ∀ operation, .begin operation ∈ actions → operation = .run ∨ operation = .loadModule)
    (replaced : ∀ earlier place program later entry base,
      actions = earlier ++ .answer place (.fetched (.ok program)) :: later →
      (({ session } : Controller μ).run (.begin .start :: earlier)).phase? place =
        some (.firstExample entry base) →
      ∃ text, lastEdit? earlier = some text ∧ text ≠ base)
    {typed : String} (edited : lastEdit? actions = some typed) :
    (({ session } : Controller μ).run (.begin .start :: actions)).session.program = typed ∧
      (({ session } : Controller μ).run (.begin .start :: actions)).session.selected = none := by
  have unplaced :
      (({ session } : Controller μ).step (.begin .start)).placements actions = [] := by
    apply Classical.byContradiction
    intro placed
    obtain ⟨earlier, action, later, placement, rfl, none, puts⟩ := exists_first_placement placed
    obtain ⟨place, entry, rfl, _, chosen | ⟨fetching, _⟩⟩ := of_placement? puts
    · have unasked : ∀ operation, .begin operation ∈ Action.begin .start :: earlier →
          ∀ phase ∈ (operation.phases : List (Phase μ)), phase.isChoice = false := by
        intro operation begun phase first
        rcases List.mem_cons.mp begun with same | later
        · cases same
          simp only [Operation.phases, List.mem_cons, List.not_mem_nil, or_false] at first
          rcases first with rfl | rfl <;> rfl
        · rcases alone operation (List.mem_append_left _ later) with rfl | rfl <;>
          · cases List.mem_singleton.mp first
            rfl
      cases not_isChoice_run (by simp [phase?]) unasked chosen
    · obtain ⟨text, last, different⟩ := replaced _ _ _ _ _ _ rfl fetching
      have program := (editor_of_unplaced none).1
      rw [last] at program
      exact different program.symm
  obtain ⟨program, selected⟩ := editor_of_unplaced unplaced
  rw [edited] at program
  exact ⟨program, selected.trans unselected⟩

/-- The program is edited while the manifest is being fetched, and once more while the first example
is. -/
theorem edit_outlives_start_after_listing :
    let session : Session String := Session.new "id" "program"
    let actions : List (Action String) :=
      [.edit "typed",
        .answer 0 (.fetched (.ok "[\x7b\"name\": \"Identity\", \"file\": \"id\"\x7d]")),
        .proceed 0, .edit "typed again", .answer 0 (.fetched (.ok "fun x -> x")), .proceed 1,
        .answer 1 (.loaded (.ok "evaluator"))]
    (({ session } : Controller String).run (.begin .start :: actions)).result? 0 = some none ∧
      (({ session } : Controller String).run (.begin .start :: actions)).session.program =
        "typed again" ∧
      (({ session } : Controller String).run (.begin .start :: actions)).session.selected =
        none := by
  intro session actions
  have unselected : session.selected = none := rfl
  have alone : ∀ operation, .begin operation ∈ actions →
      operation = .run ∨ operation = .loadModule := by
    simp [actions]
  have replaced : ∀ earlier place program later entry base,
      actions = earlier ++ .answer place (.fetched (.ok program)) :: later →
      (({ session } : Controller String).run (.begin .start :: earlier)).phase? place =
        some (.firstExample entry base) →
      ∃ text, lastEdit? earlier = some text ∧ text ≠ base := by
    intro earlier place program later entry base split fetching
    have answered : place = 0 ∧ (earlier = actions.take 1 ∨ earlier = actions.take 4) := by
      simp only [actions, List.cons_eq_append_iff, List.cons.injEq, reduceCtorEq, false_and,
        and_false, Action.answer.injEq, Answer.fetched.injEq, Except.ok.injEq, List.nil_eq,
        List.append_eq_nil_iff, exists_const, or_self, or_false, false_or] at split
      obtain ⟨_, rfl, ⟨rfl, ⟨rfl, _⟩, _⟩ | ⟨_, rfl, _, rfl, _, rfl, rfl, ⟨rfl, _⟩, _⟩⟩ := split
      · exact ⟨rfl, .inl rfl⟩
      · exact ⟨rfl, .inr rfl⟩
    obtain ⟨rfl, rfl | rfl⟩ := answered
    · have listing : (({ session } : Controller String).run
          (.begin .start :: actions.take 1)).phase? 0 = some .manifest := by rfl
      cases listing.symm.trans fetching
    · have remembers : (({ session } : Controller String).run
          (.begin .start :: actions.take 4)).phase? 0 =
            some (.firstExample ⟨"Identity", "id"⟩ "typed") := by decide +kernel
      cases remembers.symm.trans fetching
      exact ⟨"typed again", rfl, by decide⟩
  exact ⟨by decide +kernel, edit_outlives_start unselected alone replaced rfl⟩

/-- The program is edited only while the manifest is being fetched. The first example is fetched for
what was typed, and takes its place. -/
theorem edit_lost_while_listing :
    let actions : List (Action String) :=
      [.edit "typed",
        .answer 0 (.fetched (.ok "[\x7b\"name\": \"Identity\", \"file\": \"id\"\x7d]")),
        .proceed 0, .answer 0 (.fetched (.ok "fun x -> x")), .proceed 1,
        .answer 1 (.loaded (.ok "evaluator"))]
    let ends := ({ session := Session.new "id" "program" } : Controller String).run
      (.begin .start :: actions)
    lastEdit? actions = some "typed" ∧ ends.result? 0 = some none ∧
      ends.session.program = "fun x -> x" ∧ ends.session.selected = some "id" := by
  decide +kernel

end Scratchpad.Controller
