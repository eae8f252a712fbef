import Scratchpad.Evaluator.State

/-!
# The log

The warnings and errors that the program logs. An entry is a level, a message and named
fields; what is worth an entry is listed here, with its wording.
-/

set_option autoImplicit false

namespace Scratchpad.Log

inductive Level where
  | warn
  | error
  deriving DecidableEq, Repr

def Level.label : Level → String
  | .warn => "WARN"
  | .error => "ERROR"

inductive Entry where
  /-- The evaluator could not be loaded. -/
  | loadFailed (reason : String)
  /-- The manifest could not be fetched or understood. -/
  | catalogFailed (reason : String)
  /-- The program of an example could not be fetched. -/
  | exampleFailed (file reason : String)
  /-- An evaluator arrived that nobody waited for. -/
  | strayEvaluator (refused : Evaluator.InvalidTransition)
  /-- A failure arrived that nobody waited for. -/
  | strayFailure (refused : Evaluator.InvalidTransition) (reason : String)
  /-- A run was asked for before the evaluator was loaded. -/
  | runTooEarly (status : Evaluator.Status)
  /-- A line of input was no request. -/
  | malformedRequest (reason : String)
  /-- Nobody reads the output any more. -/
  | outputClosed
  deriving DecidableEq, Repr

namespace Entry

def level : Entry → Level
  | .loadFailed _ | .catalogFailed _ | .exampleFailed _ _ => .error
  | _ => .warn

def message : Entry → String
  | .loadFailed _ => "Failed to load evaluation module"
  | .catalogFailed _ => "Failed to load example catalog"
  | .exampleFailed _ _ => "Failed to load example"
  | .strayEvaluator _ => "Ignoring loaded module"
  | .strayFailure _ _ => "Ignoring module failure"
  | .runTooEarly _ => "Run requested before the evaluation module was loaded"
  | .malformedRequest _ => "Ignoring malformed request"
  | .outputClosed => "Output closed, dropping message"

def fields : Entry → List (String × String)
  | .loadFailed reason => [("error", reason)]
  | .catalogFailed reason => [("error", reason)]
  | .exampleFailed file reason => [("file", file), ("error", reason)]
  | .strayEvaluator refused => [("error", refused.message)]
  | .strayFailure refused reason => [("error", refused.message), ("reason", reason)]
  | .runTooEarly status => [("module", status.label)]
  | .malformedRequest reason => [("error", reason)]
  | .outputClosed => []

end Entry

end Scratchpad.Log
