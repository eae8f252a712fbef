import Scratchpad.Proofs.Controller.Steps
import Scratchpad.Proofs.Session.Editor
import Scratchpad.Proofs.Session.Loading

/-!
# The editor over a run

Between the user and the editor stand fetches that take their time. Whatever else happens, the
program is what was put there last: an edit, or an example whose fetch was answered. Where no
example is put there, it is the last edit, and the selection is what it was.
-/

set_option autoImplicit false

namespace Scratchpad.Controller

open Catalog (Example)
open Session (Event Placement)

variable {μ : Type}

/-! ## One action -/

/-- What the user types by an action. -/
def Action.edit? : Action μ → Option String
  | .edit program => some program
  | _ => none

/-- The example that an action puts into the editor. -/
def placement? (controller : Controller μ) (action : Action μ) : Option Placement :=
  (controller.event? action).bind controller.session.placement?

theorem bind_event?_edit? (controller : Controller μ) (action : Action μ) :
    (controller.event? action).bind Event.edit? = action.edit? := by
  cases action with
  | answer place answer =>
    cases told : controller.event? (.answer place answer) with
    | none => rfl
    | some event =>
      obtain ⟨phase, _, meant⟩ := Option.bind_eq_some_iff.mp told
      cases Phase.tells_of_eventOn place meant with
      | @manifest result => cases listed : Catalog.ofManifest result <;> rfl
      | _ => rfl
  | proceed place =>
    cases told : controller.event? (.proceed place) with
    | none => rfl
    | some event =>
      obtain ⟨phase, _, due⟩ := Option.bind_eq_some_iff.mp told
      cases Phase.tells_of_eventDue place due <;> rfl
  | _ => rfl

theorem editor_step_of_silent {controller : Controller μ} {action : Action μ}
    (silent : controller.event? action = none) :
    (controller.step action).session.program = controller.session.program ∧
      (controller.step action).session.selected = controller.session.selected ∧
      (controller.step action).session.examples = controller.session.examples := by
  rcases session_step_of_silent silent with same | claimed
  · rw [same]
    exact ⟨rfl, rfl, rfl⟩
  · rw [(Session.of_beginLoad? claimed).2]
    exact ⟨rfl, rfl, rfl⟩

theorem program_step (controller : Controller μ) (action : Action μ) :
    (controller.step action).session.program =
      (action.edit?.or ((controller.placement? action).map (·.program))).getD
        controller.session.program := by
  rw [← bind_event?_edit? controller action, placement?]
  cases told : controller.event? action with
  | none => exact (editor_step_of_silent told).1
  | some event =>
    rw [session_step told]
    exact controller.session.program_apply event

theorem selected_step (controller : Controller μ) (action : Action μ) :
    (controller.step action).session.selected =
      ((controller.placement? action).map (·.file)).or controller.session.selected := by
  rw [placement?]
  cases told : controller.event? action with
  | none => exact (editor_step_of_silent told).2.1
  | some event =>
    rw [session_step told]
    exact controller.session.selected_apply event

/-- An example is put into the editor by the answer to its fetch: one that was chosen always, a
first one only if nothing is selected and the program is the one for which it was fetched. -/
theorem of_placement? {controller : Controller μ} {action : Action μ} {placement : Placement}
    (placed : controller.placement? action = some placement) :
    ∃ place entry, action = .answer place (.fetched (.ok placement.program)) ∧
      entry.file = placement.file ∧
      (controller.phase? place = some (.chosenExample entry) ∨
        controller.phase? place = some (.firstExample entry controller.session.program) ∧
          controller.session.selected = none) := by
  obtain ⟨event, told, puts⟩ := Option.bind_eq_some_iff.mp placed
  cases action with
  | answer place answer =>
    obtain ⟨phase, found, meant⟩ := Option.bind_eq_some_iff.mp told
    cases Phase.tells_of_eventOn place meant with
    | @chosenFetched entry program =>
      cases puts
      exact ⟨place, entry, rfl, rfl, .inl found⟩
    | @firstFetched entry base program =>
      simp only [Session.placement?, Option.ite_none_right_eq_some, Option.some.injEq] at puts
      obtain ⟨accepted, rfl⟩ := puts
      obtain ⟨free, rfl⟩ := Session.acceptsDefault_iff.mp accepted
      exact ⟨place, entry, rfl, rfl, .inr ⟨found, free⟩⟩
    | @manifest result => cases listed : Catalog.ofManifest result <;> simp [listed,
        manifestEvent, Session.placement?] at puts
    | _ => cases puts
  | proceed place =>
    obtain ⟨phase, _, due⟩ := Option.bind_eq_some_iff.mp told
    cases Phase.tells_of_eventDue place due <;> cases puts
  | edit program => cases told; cases puts
  | clear => cases told; cases puts
  | begin operation => cases told
  | grant => cases told

/-! ## Runs -/

/-- What the user typed last in the course of actions. -/
def lastEdit? (actions : List (Action μ)) : Option String :=
  (actions.filterMap Action.edit?).getLast?

/-- The examples that are put into the editor in the course of actions, in order. -/
def placements (controller : Controller μ) : List (Action μ) → List Placement
  | [] => []
  | action :: actions =>
    (controller.placement? action).toList ++ placements (controller.step action) actions

theorem lastEdit?_cons (action : Action μ) (actions : List (Action μ)) :
    lastEdit? (action :: actions) = (lastEdit? actions).or action.edit? := by
  cases typed : action.edit? <;>
    cases later : (actions.filterMap Action.edit?).getLast? <;>
    simp [lastEdit?, typed, later, List.getLast?_cons]

theorem editor_of_unplaced {controller : Controller μ} {actions : List (Action μ)}
    (unplaced : controller.placements actions = []) :
    (controller.run actions).session.program =
        (lastEdit? actions).getD controller.session.program ∧
      (controller.run actions).session.selected = controller.session.selected := by
  induction actions generalizing controller with
  | nil => exact ⟨rfl, rfl⟩
  | cons action actions ih =>
    rw [placements, List.append_eq_nil_iff, Option.toList_eq_nil_iff] at unplaced
    obtain ⟨now, later⟩ := unplaced
    obtain ⟨program, selected⟩ := ih later
    rw [run_cons, program, selected, program_step, selected_step, now, lastEdit?_cons]
    cases lastEdit? actions <;> simp

theorem exists_first_placement {controller : Controller μ} {actions : List (Action μ)}
    (placed : controller.placements actions ≠ []) :
    ∃ earlier action later placement, actions = earlier ++ action :: later ∧
      controller.placements earlier = [] ∧
      (controller.run earlier).placement? action = some placement := by
  induction actions generalizing controller with
  | nil => exact absurd rfl placed
  | cons action actions ih =>
    cases now : controller.placement? action with
    | some placement => exact ⟨[], action, actions, placement, rfl, rfl, now⟩
    | none =>
      rw [placements, now, Option.toList_none, List.nil_append] at placed
      obtain ⟨earlier, first, later, placement, rfl, none, puts⟩ := ih placed
      exact ⟨action :: earlier, first, later, placement, rfl, by rw [placements, now, none]; rfl,
        puts⟩

theorem exists_last_placement {controller : Controller μ} {actions : List (Action μ)}
    (placed : controller.placements actions ≠ []) :
    ∃ earlier action later placement, actions = earlier ++ action :: later ∧
      (controller.run earlier).placement? action = some placement ∧
      ((controller.run earlier).step action).placements later = [] := by
  induction actions generalizing controller with
  | nil => exact absurd rfl placed
  | cons action actions ih =>
    by_cases more : (controller.step action).placements actions = []
    · cases now : controller.placement? action with
      | none => exact absurd (by rw [placements, now, more]; rfl) placed
      | some placement => exact ⟨[], action, actions, placement, rfl, now, more⟩
    · obtain ⟨earlier, last, later, placement, rfl, puts, none⟩ := ih more
      exact ⟨action :: earlier, last, later, placement, rfl, puts, none⟩

end Scratchpad.Controller
