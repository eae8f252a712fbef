import Scratchpad.Catalog.Example
import Scratchpad.Evaluator.Outcome

/-!
# Session events

Everything that can happen to a session. Times are values like any other, so that a session
is determined by its events.
-/

set_option autoImplicit false

namespace Scratchpad.Session

open Catalog (Example)
open Evaluator (Evaluation)

/-- A moment, as it is written. -/
structure Time where
  text : String
  deriving DecidableEq, Repr

/-- Something that happens to a session. The handle of a loaded evaluator has type `μ`. -/
inductive Event (μ : Type) where
  | programEdited (program : String)
  | moduleLoaded (handle : μ)
  | moduleLoadFailed (reason : String)
  | catalogLoaded (examples : List Example)
  | catalogLoadFailed (reason : String)
  /-- The user's choice arrived. -/
  | exampleLoaded (file program : String)
  /-- The first example arrived. It was fetched when the program was `base`, and yields to
  anything that has happened to the program since. -/
  | defaultExampleLoaded (file program base : String)
  | exampleLoadFailed (file reason : String)
  | runRejected
  | runCompleted (evaluation : Evaluation) (time : Time)
  | outputCleared
  deriving DecidableEq, Repr

def Event.name {μ : Type} : Event μ → String
  | .programEdited _ => "program_edited"
  | .moduleLoaded _ => "module_loaded"
  | .moduleLoadFailed _ => "module_load_failed"
  | .catalogLoaded _ => "catalog_loaded"
  | .catalogLoadFailed _ => "catalog_load_failed"
  | .exampleLoaded _ _ => "example_loaded"
  | .defaultExampleLoaded _ _ _ => "default_example_loaded"
  | .exampleLoadFailed _ _ => "example_load_failed"
  | .runRejected => "run_rejected"
  | .runCompleted _ _ => "run_completed"
  | .outputCleared => "output_cleared"

end Scratchpad.Session
