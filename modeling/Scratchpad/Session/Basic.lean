import Scratchpad.Log
import Scratchpad.Session.Event
import Scratchpad.Session.Notice

/-!
# Sessions

A session is what the editor shows: the program, the state of the evaluator, the examples to
choose from, and what the last runs came to. It changes by events alone, and each event gives
at most one notice to the user. The claim on loading the evaluator is the one change that can
be refused, and it is made by `beginLoad?`.
-/

set_option autoImplicit false

namespace Scratchpad

open Catalog (Example)
open Evaluator (Evaluation Outcome)
open Json (Value)
open Session (Event Notice Time)

structure Session (μ : Type) where
  id : String
  program : String
  evaluator : Evaluator.State μ := .unloaded
  examples : List Example := []
  selected : Option String := none
  lastResult : String := ""
  lastOutput : String := ""
  lastRunAt : Option Time := none
  deriving DecidableEq, Repr

namespace Session

variable {μ : Type}

def new (id program : String) : Session μ :=
  { id, program }

/-! ## Examples -/

structure UnknownExample where
  file : String
  deriving DecidableEq, Repr

def UnknownExample.message (unknown : UnknownExample) : String :=
  "Example not in catalog: " ++ unknown.file

/-- The first entry of the catalog with the given file. -/
def entry (session : Session μ) (file : String) : Except UnknownExample Example :=
  match session.examples.find? (·.file == file) with
  | some found => .ok found
  | none => .error ⟨file⟩

/-! ## Loading -/

/-- Claim the right to load the evaluator. It is given while nobody else has it and no
evaluator is loaded. -/
def beginLoad? (session : Session μ) : Option (Session μ) :=
  match session.evaluator.advance .loading with
  | .ok (some next) => some { session with evaluator := next }
  | _ => none

/-! ## Events -/

/-- A session after an event, with the notice for the user and the log. -/
structure Reaction (μ : Type) where
  session : Session μ
  notice : Option Notice := none
  log : List Log.Entry := []

def acceptModule (session : Session μ) (handle : μ) : Reaction μ :=
  match session.evaluator.advance (.ready handle) with
  | .ok (some next) => { session := { session with evaluator := next } }
  | .ok none => { session }
  | .error refused => { session, log := [.strayEvaluator refused] }

def acceptFailure (session : Session μ) (reason : String) : Reaction μ :=
  match session.evaluator.advance (.failed reason) with
  | .ok (some next) =>
    { session := { session with evaluator := next }, log := [.loadFailed reason] }
  | .ok none => { session }
  | .error refused => { session, log := [.strayFailure refused reason] }

/-- A run was completed. Only a value replaces the result; what was printed replaces the
output only if something was. -/
def record (session : Session μ) (evaluation : Evaluation) (time : Time) : Reaction μ :=
  let session := { session with lastRunAt := some time }
  match evaluation.outcome with
  | .ok value =>
    { session :=
        { session with
          lastResult := value
          lastOutput := evaluation.output.getD session.lastOutput } }
  | .err message => { session, notice := some (.evaluationError message) }

/-- Whether a first example that was fetched for `base` still has a place to go. -/
def acceptsDefault (session : Session μ) (base : String) : Bool :=
  session.selected.isNone && session.program == base

def apply (session : Session μ) : Event μ → Reaction μ
  | .programEdited program => { session := { session with program } }
  | .moduleLoaded handle => session.acceptModule handle
  | .moduleLoadFailed reason => session.acceptFailure reason
  | .catalogLoaded examples => { session := { session with examples } }
  | .catalogLoadFailed reason => { session, log := [.catalogFailed reason] }
  | .exampleLoaded file program =>
    { session := { session with program, selected := some file } }
  | .defaultExampleLoaded file program base =>
    if session.acceptsDefault base then
      { session := { session with program, selected := some file } }
    else { session }
  | .exampleLoadFailed file reason =>
    { session, notice := some .exampleUnavailable, log := [.exampleFailed file reason] }
  | .runRejected =>
    { session, notice := some .moduleNotReady, log := [.runTooEarly session.evaluator.status] }
  | .runCompleted evaluation time => session.record evaluation time
  | .outputCleared => { session := { session with lastResult := "", lastOutput := "" } }

/-! ## Snapshots -/

/-- What the frontend is shown of a session. -/
structure Snapshot where
  sessionId : String
  program : String
  moduleStatus : Evaluator.Status
  moduleError : Option String
  examples : List Example
  selected : Option String
  lastResult : String
  lastOutput : String
  lastRunAt : Option Time
  deriving DecidableEq, Repr

def snapshot (session : Session μ) : Snapshot where
  sessionId := session.id
  program := session.program
  moduleStatus := session.evaluator.status
  moduleError := session.evaluator.failure?
  examples := session.examples
  selected := session.selected
  lastResult := session.lastResult
  lastOutput := session.lastOutput
  lastRunAt := session.lastRunAt

def Snapshot.toValue (snapshot : Snapshot) : Value :=
  .object [("session_id", .string snapshot.sessionId), ("program", .string snapshot.program),
    ("module_status", .string snapshot.moduleStatus.label),
    ("module_error", .ofText? snapshot.moduleError),
    ("examples", .array (snapshot.examples.map (·.toValue))),
    ("selected_example", .ofText? snapshot.selected),
    ("last_result", .string snapshot.lastResult), ("last_output", .string snapshot.lastOutput),
    ("last_run_at", .ofText? (snapshot.lastRunAt.map (·.text)))]

end Session

end Scratchpad
