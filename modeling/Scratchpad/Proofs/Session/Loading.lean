import Scratchpad.Session.Basic

/-!
# The load state of a session

What claims and events do to the load state. A claim is granted unless a load is under way or has
succeeded, only the results of loads change the state otherwise, and a loaded evaluator is never
replaced, whatever happens to the session.
-/

set_option autoImplicit false

namespace Scratchpad

open Evaluator (LoadError)
open Session (Event)

variable {μ : Type}

/-! ## States -/

namespace Evaluator.State

/-- The state that the result of a load leads to. -/
def ofLoad : Except LoadError μ → State μ
  | .ok handle => .ready handle
  | .error error => .failed error.message

/-- A load was claimed and has not failed since. -/
def isClaimed : State μ → Bool
  | .loading | .ready _ => true
  | .unloaded | .failed _ => false

theorem status_eq_loading_iff {state : State μ} : state.status = .loading ↔ state = .loading := by
  cases state <;> simp [status]

theorem isClaimed_iff_status (state : State μ) :
    state.isClaimed = true ↔ state.status = .loading ∨ state.status = .ready := by
  cases state <;> simp [isClaimed, status]

theorem advance_ofLoad (result : Except LoadError μ) :
    (State.loading : State μ).advance (ofLoad result) = .ok (some (ofLoad result)) := by
  cases result <;> rfl

end Evaluator.State

/-! ## Claims and events -/

namespace Session

/-- An event that may change the load state. -/
def Event.isModuleEvent : Event μ → Bool
  | .moduleLoaded _ | .moduleLoadFailed _ => true
  | _ => false

/-- The event of a load that failed. -/
def Event.isLoadFailure : Event μ → Bool
  | .moduleLoadFailed _ => true
  | _ => false

/-- What the result of a load is for the session. -/
def Event.ofLoad : Except LoadError μ → Event μ
  | .ok handle => .moduleLoaded handle
  | .error error => .moduleLoadFailed error.message

/-- A claim is granted while no load is under way and no evaluator is loaded, and it changes
nothing but the load state. -/
theorem beginLoad?_eq (session : Session μ) :
    session.beginLoad? =
      if session.evaluator.isClaimed then none
      else some { session with evaluator := .loading } := by
  cases state : session.evaluator <;>
    simp [beginLoad?, state, Evaluator.State.advance, Evaluator.State.status,
      Evaluator.Status.canBecome, Evaluator.State.isClaimed]

theorem of_beginLoad? {session next : Session μ} (claimed : session.beginLoad? = some next) :
    session.evaluator.isClaimed = false ∧ next = { session with evaluator := .loading } := by
  rw [beginLoad?_eq] at claimed
  cases free : session.evaluator.isClaimed with
  | true => simp [free] at claimed
  | false =>
    simp only [free, Bool.false_eq_true, ↓reduceIte, Option.some.injEq] at claimed
    exact ⟨rfl, claimed.symm⟩

theorem evaluator_apply (session : Session μ) {event : Event μ}
    (other : event.isModuleEvent = false) :
    (session.apply event).session.evaluator = session.evaluator := by
  cases event with
  | moduleLoaded handle => cases other
  | moduleLoadFailed reason => cases other
  | defaultExampleLoaded file program base =>
    simp only [apply]
    split <;> rfl
  | runCompleted evaluation time =>
    simp only [apply, record]
    split <;> rfl
  | _ => rfl

theorem apply_ofLoad {session : Session μ} (loading : session.evaluator = .loading)
    (result : Except LoadError μ) :
    (session.apply (.ofLoad result)).session = { session with evaluator := .ofLoad result } := by
  cases result with
  | ok handle =>
    simp [apply, Event.ofLoad, acceptModule, loading, Evaluator.State.ofLoad,
      Evaluator.State.advance, Evaluator.State.status, Evaluator.Status.canBecome]
  | error error =>
    simp [apply, Event.ofLoad, acceptFailure, loading, Evaluator.State.ofLoad,
      Evaluator.State.advance, Evaluator.State.status, Evaluator.Status.canBecome]

theorem ready_apply {session : Session μ} {handle : μ}
    (loaded : session.evaluator = .ready handle) (event : Event μ) :
    (session.apply event).session.evaluator = .ready handle := by
  cases event with
  | moduleLoaded other =>
    simp [apply, acceptModule, loaded, Evaluator.State.advance, Evaluator.State.status,
      Evaluator.Status.canBecome]
  | moduleLoadFailed reason =>
    simp [apply, acceptFailure, loaded, Evaluator.State.advance, Evaluator.State.status,
      Evaluator.Status.canBecome]
  | _ => rw [session.evaluator_apply rfl, loaded]

end Session

/-! ## The log -/

namespace Log.Entry

/-- An entry that says that the result of a load was turned away. -/
def isStray : Entry → Bool
  | .strayEvaluator _ | .strayFailure _ _ => true
  | _ => false

theorem isStray_iff_message (entry : Entry) :
    entry.isStray = true ↔
      entry.message = "Ignoring loaded module" ∨ entry.message = "Ignoring module failure" := by
  cases entry <;> simp [isStray, message]

end Log.Entry

namespace Session

theorem not_isStray_apply (session : Session μ) {event : Event μ}
    (other : event.isModuleEvent = false) :
    ∀ entry ∈ (session.apply event).log, entry.isStray = false := by
  cases event with
  | moduleLoaded handle => cases other
  | moduleLoadFailed reason => cases other
  | defaultExampleLoaded file program base =>
    simp only [apply]
    split <;> simp
  | runCompleted evaluation time =>
    simp only [apply, record]
    split <;> simp
  | _ => simp [apply, Log.Entry.isStray]

theorem not_isStray_apply_ofLoad {session : Session μ} (loading : session.evaluator = .loading)
    (result : Except LoadError μ) :
    ∀ entry ∈ (session.apply (.ofLoad result)).log, entry.isStray = false := by
  cases result with
  | ok handle =>
    simp [apply, Event.ofLoad, acceptModule, loading, Evaluator.State.advance,
      Evaluator.State.status, Evaluator.Status.canBecome]
  | error error =>
    simp [apply, Event.ofLoad, acceptFailure, loading, Evaluator.State.advance,
      Evaluator.State.status, Evaluator.Status.canBecome, Log.Entry.isStray]

end Session

end Scratchpad
