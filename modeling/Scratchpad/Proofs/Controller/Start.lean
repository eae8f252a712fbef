import Scratchpad.Controller.Settle
import Scratchpad.Proofs.Controller.Steps
import Scratchpad.Proofs.Session.Editor
import Scratchpad.Proofs.Session.Loading

/-!
# Starting up

A start loads the catalog and the evaluator side by side. Each of the two goes its own way, through
answers that may be failures, and neither looks at what the other does to the session. So the
session at the end, and the notice, are a function of the session at the beginning and of the
answers, whatever the order in which the two take their steps.
-/

set_option autoImplicit false

namespace Scratchpad.Controller

open Catalog (Example)
open Evaluator (LoadError)
open Session (Event Notice Placement)

variable {μ : Type}

/-! ## Answers and steps -/

/-- What the calls of a start come to. The text of an example may depend on the entry in any way,
and need not have to do with the manifest even if the file is the same. -/
structure Outcomes (μ : Type) where
  manifest : Except Catalog.Error String
  program : Example → Except Catalog.Error String
  load : Except LoadError μ

/-- How an activity of a start takes its next step. -/
def Outcomes.action? (outcomes : Outcomes μ) (place : Nat) : Phase μ → Option (Action μ)
  | .manifest => some (.answer place (.fetched outcomes.manifest))
  | .firstExample entry _ => some (.answer place (.fetched (outcomes.program entry)))
  | .loading _ => some (.answer place (.loaded outcomes.load))
  | .listed _ | .claiming => some (.proceed place)
  | _ => none

/-- The actions are steps of activities, one after the other, in any order of the activities. -/
inductive Interleaves (outcomes : Outcomes μ) : Controller μ → List (Action μ) → Prop where
  | nil {controller} : Interleaves outcomes controller []
  | cons {controller action actions} (place phase) : controller.phase? place = some phase →
      outcomes.action? place phase = some action →
      Interleaves outcomes (controller.step action) actions →
      Interleaves outcomes controller (action :: actions)

/-! ## What a start comes to -/

namespace Outcomes

variable (outcomes : Outcomes μ)

def catalog? : Option (List Example) :=
  (Catalog.ofManifest outcomes.manifest).toOption

def first? : Option Example :=
  outcomes.catalog?.bind (·.head?)

/-- The first example with its text, if there is one and the session has nothing selected. -/
def placement? (session : Session μ) : Option Placement := do
  let first ← outcomes.first?
  let program ← (outcomes.program first).toOption
  if session.selected.isNone then some ⟨first.file, program⟩ else none

/-- The session with the catalog and its first example. -/
def listed (session : Session μ) : Session μ :=
  { session with
    examples := outcomes.catalog?.getD session.examples
    program := ((outcomes.placement? session).map (·.program)).getD session.program
    selected := ((outcomes.placement? session).map (·.file)).or session.selected }

/-- The session that has started up. -/
def started (session : Session μ) : Session μ :=
  { outcomes.listed session with evaluator := .ofLoad outcomes.load }

/-- The notice of a start: the first example is there, but cannot be had. -/
def notice? : Option Notice :=
  match outcomes.first?.map outcomes.program with
  | some (.error _) => some .exampleUnavailable
  | _ => none

end Outcomes

/-! ## The two ways -/

/-- How far the catalog has come, and what the session is but for the evaluator. -/
inductive Listing (outcomes : Outcomes μ) (session : Session μ) : Phase μ → Session μ → Prop where
  | manifest : Listing outcomes session .manifest session
  | listed {first rest} : outcomes.catalog? = some (first :: rest) →
      Listing outcomes session (.listed first) { session with examples := first :: rest }
  | fetching {first rest} : outcomes.catalog? = some (first :: rest) →
      Listing outcomes session (.firstExample first session.program)
        { session with examples := first :: rest }
  | finished {notice shown} : notice = outcomes.notice? → shown = outcomes.listed session →
      Listing outcomes session (.finished notice) shown

/-- How far the evaluator has come, and what its state is. -/
inductive Loading (outcomes : Outcomes μ) (state : Evaluator.State μ) :
    Phase μ → Evaluator.State μ → Prop where
  | claiming : Loading outcomes state .claiming state
  | loading {number} : Loading outcomes state (.loading number) .loading
  | finished : Loading outcomes state (.finished none) (.ofLoad outcomes.load)

/-! ## One step of one of them -/

section Steps

variable {outcomes : Outcomes μ} {session shown : Session μ} {controller : Controller μ}
  {catalog module : Phase μ} {state : Evaluator.State μ}

/-- An answer takes the catalog further, whatever the evaluator does meanwhile. -/
theorem Listing.told (listing : Listing outcomes session catalog shown) {answer : Answer μ}
    (acts : outcomes.action? 0 catalog = some (.answer 0 answer)) :
    ∃ event, catalog.eventOn answer = some event ∧ event.isModuleEvent = false ∧
      Listing outcomes session (catalog.afterEvent (shown.apply event).notice event)
        (shown.apply event).session ∧
      (catalog.afterEvent (shown.apply event).notice event).distance < catalog.distance := by
  cases listing with
  | manifest =>
    cases acts
    refine ⟨_, rfl, ?_⟩
    cases read : Catalog.ofManifest outcomes.manifest with
    | error error =>
      have unlisted : outcomes.catalog? = none := by
        rw [Outcomes.catalog?, read]
        rfl
      refine ⟨rfl, .finished ?_ ?_, Nat.zero_lt_succ _⟩
      · simp [Session.apply, Outcomes.notice?, Outcomes.first?, unlisted, manifestEvent]
      · simp [Session.apply, Outcomes.listed, Outcomes.placement?, Outcomes.first?, unlisted,
          manifestEvent]
    | ok examples =>
      have found : outcomes.catalog? = some examples := by
        rw [Outcomes.catalog?, read]
        rfl
      cases examples with
      | nil =>
        refine ⟨rfl, .finished ?_ ?_, Nat.zero_lt_succ _⟩
        · simp [Session.apply, Outcomes.notice?, Outcomes.first?, found, manifestEvent]
        · simp [Session.apply, Outcomes.listed, Outcomes.placement?, Outcomes.first?, found,
            manifestEvent]
      | cons first rest => exact ⟨rfl, .listed found, Nat.lt_succ_self _⟩
  | listed _ => cases acts
  | @fetching first rest found =>
    cases acts
    have head : outcomes.first? = some first := by simp [Outcomes.first?, found]
    cases fetched : outcomes.program first with
    | error error =>
      refine ⟨_, rfl, rfl, .finished ?_ ?_, Nat.zero_lt_succ _⟩
      · simp [Session.apply, Outcomes.notice?, head, fetched]
      · simp [Session.apply, Outcomes.listed, Outcomes.placement?, head, found, fetched,
          Except.toOption]
    | ok program =>
      -- Nobody has touched the program, so only a selection can stand in the way.
      refine ⟨_, rfl, rfl, .finished ?_ ?_, Nat.zero_lt_succ _⟩
      · cases session.selected <;>
          simp [Session.apply, Session.acceptsDefault, Outcomes.notice?, head, fetched]
      · cases selected : session.selected <;>
          simp [Session.apply, Session.acceptsDefault, Outcomes.listed, Outcomes.placement?, head,
            found, fetched, selected, Except.toOption]
  | finished _ _ => cases acts

/-- What an event does to the rest of a session does not depend on the evaluator. -/
theorem apply_beside (shown : Session μ) (state : Evaluator.State μ) {event : Event μ}
    (other : event.isModuleEvent = false) :
    (({ shown with evaluator := state } : Session μ).apply event).session =
        { (shown.apply event).session with evaluator := state } ∧
      (({ shown with evaluator := state } : Session μ).apply event).notice =
        (shown.apply event).notice := by
  cases event with
  | moduleLoaded handle => cases other
  | moduleLoadFailed reason => cases other
  | defaultExampleLoaded file program base =>
    have same : ({ shown with evaluator := state } : Session μ).acceptsDefault base =
        shown.acceptsDefault base := rfl
    simp only [Session.apply, same]
    cases shown.acceptsDefault base <;> exact ⟨rfl, rfl⟩
  | runCompleted evaluation time =>
    obtain ⟨outcome, output⟩ := evaluation
    cases outcome <;> exact ⟨rfl, rfl⟩
  | _ => exact ⟨rfl, rfl⟩

theorem notice_ofLoad (session : Session μ) (result : Except LoadError μ) :
    (session.apply (.ofLoad result)).notice = none := by
  cases result with
  | ok handle =>
    simp only [Session.apply, Event.ofLoad, Session.acceptModule]
    split <;> rfl
  | error error =>
    simp only [Session.apply, Event.ofLoad, Session.acceptFailure]
    split <;> rfl

/-! ## One step of a start -/

/-- A controller in the course of a start: both activities are on their ways, and the session is
what the two have made of it. -/
structure Starting (outcomes : Outcomes μ) (session : Session μ) (controller : Controller μ)
    (catalog module : Phase μ) (shown : Session μ) (state : Evaluator.State μ) : Prop where
  activities : controller.activities = [⟨0, catalog⟩, ⟨0, module⟩]
  listing : Listing outcomes session catalog shown
  loading : Loading outcomes session.evaluator module state
  holds : controller.session = { shown with evaluator := state }

theorem Starting.catalog_step
    (going : Starting outcomes session controller catalog module shown state)
    {action : Action μ} (acts : outcomes.action? 0 catalog = some action) :
    ∃ next made, Starting outcomes session (controller.step action) next module made state ∧
      next.distance < catalog.distance := by
  have phase : controller.phase? 0 = some catalog := by simp [phase?, going.activities]
  have told : ∀ answer, action = .answer 0 answer →
      ∃ next made, Starting outcomes session (controller.step action) next module made state ∧
        next.distance < catalog.distance := by
    rintro answer rfl
    obtain ⟨event, meant, other, listing, closer⟩ := going.listing.told acts
    obtain ⟨session', notice⟩ := apply_beside shown state other
    rw [← going.holds] at session' notice
    rw [← notice] at listing closer
    refine ⟨_, _, ⟨?_, listing, going.loading, ?_⟩, closer⟩
    · simp [step, Controller.answer, phase, meant, conclude, enter, apply, noticeOf,
        going.activities]
    · simp [step, Controller.answer, phase, meant, conclude, enter, apply, session']
  cases going.listing with
  | manifest => cases acts; exact told _ rfl
  | fetching _ => cases acts; exact told _ rfl
  | @listed first rest found =>
    cases acts
    refine ⟨.firstExample first session.program, _, ⟨?_, .fetching found, going.loading, ?_⟩,
      Nat.lt_succ_self _⟩
    · simp [step, proceed, phase, Phase.eventDue, goOn, enter, going.activities, going.holds]
    · simp [step, proceed, phase, Phase.eventDue, goOn, enter, going.holds]
  | finished _ _ => cases acts

theorem Starting.module_step (free : session.evaluator.isClaimed = false)
    (going : Starting outcomes session controller catalog module shown state)
    {action : Action μ} (acts : outcomes.action? 1 module = some action) :
    ∃ next reached, Starting outcomes session (controller.step action) catalog next shown reached ∧
      next.distance < module.distance := by
  have phase : controller.phase? 1 = some module := by simp [phase?, going.activities]
  cases going.loading with
  | claiming =>
    cases acts
    have claimed : controller.session.beginLoad? = some { shown with evaluator := .loading } := by
      simp [Session.beginLoad?_eq, going.holds, free]
    refine ⟨.loading (controller.loads + 1), .loading, ⟨?_, going.listing, .loading, ?_⟩,
      Nat.lt_succ_self _⟩
    · simp [step, proceed, phase, Phase.eventDue, goOn, claim, claimed, enter, going.activities]
    · simp [step, proceed, phase, Phase.eventDue, goOn, claim, claimed, enter]
  | @loading number =>
    cases acts
    have loading : controller.session.evaluator = .loading := by rw [going.holds]
    have applied : (controller.session.apply (.ofLoad outcomes.load)).session =
        { shown with evaluator := .ofLoad outcomes.load } := by
      rw [Session.apply_ofLoad loading, going.holds]
    have meant : Phase.eventOn (.loading number) (.loaded outcomes.load) =
        some (.ofLoad outcomes.load) := by
      cases outcomes.load <;> rfl
    refine ⟨.finished none, .ofLoad outcomes.load, ⟨?_, going.listing, .finished, ?_⟩,
      Nat.zero_lt_succ _⟩
    · simp [step, Controller.answer, phase, meant, conclude, enter, apply, noticeOf,
        notice_ofLoad, Phase.afterEvent, going.activities]
    · simp [step, Controller.answer, phase, meant, conclude, enter, apply, applied]
  | finished => cases acts

end Steps

/-! ## Whole starts -/

/-- A controller in the course of a start, somewhere on the way. -/
def Underway (outcomes : Outcomes μ) (session : Session μ) (controller : Controller μ) : Prop :=
  ∃ catalog module shown state,
    Starting outcomes session controller catalog module shown state

theorem Starting.distance {outcomes : Outcomes μ} {session shown : Session μ}
    {controller : Controller μ} {catalog module : Phase μ} {state : Evaluator.State μ}
    (going : Starting outcomes session controller catalog module shown state) :
    controller.distance = catalog.distance + module.distance := by
  simp [Controller.distance, going.activities]

theorem Underway.begun (outcomes : Outcomes μ) (session : Session μ) :
    Underway outcomes session (({ session } : Controller μ).begin .start) :=
  ⟨.manifest, .claiming, session, session.evaluator, rfl, .manifest, .claiming, rfl⟩

theorem Underway.step {outcomes : Outcomes μ} {session : Session μ}
    (free : session.evaluator.isClaimed = false) {controller : Controller μ}
    (underway : Underway outcomes session controller) {place : Nat} {phase : Phase μ}
    (found : controller.phase? place = some phase) {action : Action μ}
    (acts : outcomes.action? place phase = some action) :
    Underway outcomes session (controller.step action) ∧
      (controller.step action).distance < controller.distance := by
  obtain ⟨catalog, module, shown, state, going⟩ := underway
  match place with
  | 0 =>
    have same : catalog = phase := by simpa [phase?, going.activities] using found
    subst same
    obtain ⟨next, made, gone, closer⟩ := going.catalog_step acts
    refine ⟨⟨next, module, made, state, gone⟩, ?_⟩
    rw [going.distance, gone.distance]
    omega
  | 1 =>
    have same : module = phase := by simpa [phase?, going.activities] using found
    subst same
    obtain ⟨next, reached, gone, closer⟩ := going.module_step free acts
    refine ⟨⟨catalog, next, shown, reached, gone⟩, ?_⟩
    rw [going.distance, gone.distance]
    omega
  | place + 2 => simp [phase?, going.activities] at found

theorem Underway.run {outcomes : Outcomes μ} {session : Session μ}
    (free : session.evaluator.isClaimed = false) {controller : Controller μ}
    (underway : Underway outcomes session controller) {actions : List (Action μ)}
    (interleaved : Interleaves outcomes controller actions) :
    Underway outcomes session (controller.run actions) ∧
      actions.length + (controller.run actions).distance ≤ controller.distance := by
  induction interleaved with
  | nil => exact ⟨underway, by simp⟩
  | cons place phase found acts _ ih =>
    obtain ⟨stepped, closer⟩ := underway.step free found acts
    obtain ⟨ends, bound⟩ := ih stepped
    refine ⟨ends, ?_⟩
    rw [List.length_cons, run_cons]
    omega

theorem Interleaves.snoc {outcomes : Outcomes μ} {controller : Controller μ}
    {actions : List (Action μ)} (interleaved : Interleaves outcomes controller actions)
    {place : Nat} {phase : Phase μ}
    (found : (controller.run actions).phase? place = some phase) {action : Action μ}
    (acts : outcomes.action? place phase = some action) :
    Interleaves outcomes controller (actions ++ [action]) := by
  induction interleaved with
  | nil => exact .cons place phase found acts .nil
  | cons mover before first taken _ ih => exact .cons mover before first taken (ih found)

/-- Either both activities are at their ends, or one of them can take another step. -/
theorem Starting.ends_or_acts {outcomes : Outcomes μ} {session shown : Session μ}
    {controller : Controller μ} {catalog module : Phase μ} {state : Evaluator.State μ}
    (going : Starting outcomes session controller catalog module shown state) :
    (controller.result? 0 = some outcomes.notice? ∧
        controller.session = outcomes.started session) ∨
      controller.result? 0 = none ∧ ∃ place phase action,
        controller.phase? place = some phase ∧ outcomes.action? place phase = some action := by
  have first : controller.phase? 0 = some catalog := by simp [phase?, going.activities]
  have second : controller.phase? 1 = some module := by simp [phase?, going.activities]
  have result : controller.result? 0 =
      if catalog.isFinished && module.isFinished then
        some (catalog.notice?.or module.notice?) else none := by
    have notices : ([⟨0, catalog⟩, ⟨0, module⟩] : List (Activity μ)).findSome? (·.phase.notice?) =
        catalog.notice?.or module.notice? := by
      cases early : catalog.notice? <;> cases late : module.notice? <;> simp [early, late]
    simp [result?, activitiesOf, going.activities, notices]
  cases going.listing with
  | finished notice listed =>
    cases going.loading with
    | finished =>
      refine .inl ⟨?_, ?_⟩
      · simp [result, Phase.isFinished, Phase.notice?, notice]
      · rw [going.holds, listed]
        rfl
    | claiming => exact .inr ⟨by simp [result, Phase.isFinished], 1, _, _, second, rfl⟩
    | loading => exact .inr ⟨by simp [result, Phase.isFinished], 1, _, _, second, rfl⟩
  | manifest => exact .inr ⟨by simp [result, Phase.isFinished], 0, _, _, first, rfl⟩
  | listed _ => exact .inr ⟨by simp [result, Phase.isFinished], 0, _, _, first, rfl⟩
  | fetching _ => exact .inr ⟨by simp [result, Phase.isFinished], 0, _, _, first, rfl⟩

/-- One of the orders: the evaluator is loaded while the first example is awaited. -/
theorem interleaves_five {session : Session μ} (free : session.evaluator.isClaimed = false)
    {outcomes : Outcomes μ} {first : Example} {rest : List Example}
    (listed : outcomes.catalog? = some (first :: rest)) :
    Interleaves outcomes (({ session } : Controller μ).begin .start)
      [.proceed 1, .answer 0 (.fetched outcomes.manifest), .answer 1 (.loaded outcomes.load),
        .proceed 0, .answer 0 (.fetched (outcomes.program first))] := by
  have claimed : session.beginLoad? = some { session with evaluator := .loading } := by
    simp [Session.beginLoad?_eq, free]
  have read : Catalog.ofManifest outcomes.manifest = .ok (first :: rest) := by
    unfold Outcomes.catalog? at listed
    cases made : Catalog.ofManifest outcomes.manifest with
    | error error => simp [made, Except.toOption] at listed
    | ok examples => simpa [made, Except.toOption] using listed
  obtain ⟨manifest, program, load⟩ := outcomes
  cases load <;>
  · refine .cons 1 .claiming rfl rfl <| .cons 0 .manifest ?_ rfl <| .cons 1 (.loading 1) ?_ rfl <|
      .cons 0 (.listed first) ?_ rfl <| .cons 0 (.firstExample first session.program) ?_ rfl .nil
    all_goals
      simp [step, proceed, Controller.answer, phase?, begin, Operation.phases, Phase.eventDue, goOn,
        claim, claimed, enter, Phase.eventOn, conclude, read, manifestEvent, Phase.afterEvent, apply,
        Session.program_apply, Session.placement?, Session.Event.edit?]

/-- In whatever order the two activities of a start take their steps, the start goes on until it is
over, which it is after five steps at most, and then the session and the notice are what the answers
make of the session at the beginning. -/
theorem started_in_any_order {session : Session μ} (free : session.evaluator.isClaimed = false)
    (outcomes : Outcomes μ) {actions : List (Action μ)}
    (interleaved : Interleaves outcomes (({ session } : Controller μ).begin .start) actions) :
    let ends := ({ session } : Controller μ).run (.begin .start :: actions)
    actions.length ≤ 5 ∧
      (ends.result? 0 = some outcomes.notice? ∧ ends.session = outcomes.started session ∨
        ends.result? 0 = none ∧
          ∃ action, Interleaves outcomes (({ session } : Controller μ).begin .start)
            (actions ++ [action])) := by
  intro ends
  obtain ⟨⟨catalog, module, shown, state, going⟩, bound⟩ :=
    (Underway.begun outcomes session).run free interleaved
  refine ⟨Nat.le_trans (Nat.le_add_right _ _) bound, ?_⟩
  rcases going.ends_or_acts with finished | ⟨unfinished, place, phase, action, found, acts⟩
  · exact .inl finished
  · exact .inr ⟨unfinished, action, interleaved.snoc found acts⟩

theorem started_in_any_order_with_failures :
    let session : Session String := Session.new "id" "program"
    let outcomes : Outcomes String :=
      { manifest := .ok "[\x7b\"name\": \"Identity\", \"file\": \"id\"\x7d]"
        program := fun entry => .error (.notFound entry.file)
        load := .error (.notFound "rufus") }
    let actions : List (Action String) :=
      [.proceed 1, .answer 0 (.fetched outcomes.manifest), .answer 1 (.loaded outcomes.load),
        .proceed 0, .answer 0 (.fetched (outcomes.program ⟨"Identity", "id"⟩))]
    let ends := ({ session } : Controller String).run (.begin .start :: actions)
    session.evaluator.isClaimed = false ∧
      Interleaves outcomes (({ session } : Controller String).begin .start) actions ∧
      ends.result? 0 = some (some .exampleUnavailable) ∧
      ends.session =
        { session with
          evaluator := .failed "Evaluator not found: rufus"
          examples := [⟨"Identity", "id"⟩] } := by
  intro session outcomes actions ends
  have listed : outcomes.catalog? = some [⟨"Identity", "id"⟩] := by decide +kernel
  have free : session.evaluator.isClaimed = false := rfl
  have interleaved := interleaves_five free listed
  have first : outcomes.first? = some ⟨"Identity", "id"⟩ := by
    rw [Outcomes.first?, listed]
    rfl
  have notice : outcomes.notice? = some .exampleUnavailable := by
    rw [Outcomes.notice?, first]
    rfl
  have started : outcomes.started session =
      { session with
        evaluator := .failed "Evaluator not found: rufus"
        examples := [⟨"Identity", "id"⟩] } := by
    rw [Outcomes.started, Outcomes.listed, Outcomes.placement?, first, listed]
    rfl
  obtain ⟨-, finished | ⟨-, action, longer⟩⟩ := started_in_any_order free outcomes interleaved
  · rw [notice, started] at finished
    exact ⟨free, interleaved, finished⟩
  · have bound := (started_in_any_order free outcomes longer).1
    simp at bound

end Scratchpad.Controller
