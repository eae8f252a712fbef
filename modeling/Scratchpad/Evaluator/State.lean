import Scratchpad.Evaluator.Outcome
import Scratchpad.Text.Quoted

/-!
# The evaluator's load state

An evaluator is loaded once. A failed load may be tried again; a loaded evaluator stays for
the rest of the session.

```
unloaded → loading → ready
              ↓ ↑
             failed
```
-/

set_option autoImplicit false

namespace Scratchpad.Evaluator

open Json (Draft Fault)

/-- How far the loading of the evaluator has come. -/
inductive Status where
  | unloaded
  | loading
  | ready
  | failed
  deriving DecidableEq, Repr

namespace Status

def label : Status → String
  | .unloaded => "unloaded"
  | .loading => "loading"
  | .ready => "ready"
  | .failed => "failed"

def choices : List (String × Status) :=
  [("unloaded", .unloaded), ("loading", .loading), ("ready", .ready), ("failed", .failed)]

def read : Draft → Except Fault Status :=
  Draft.choice choices

/-- The steps that a load may take, together with staying put. -/
def canBecome : Status → Status → Bool
  | .unloaded, .loading => true
  | .loading, .ready => true
  | .loading, .failed => true
  | .failed, .loading => true
  | a, b => a == b

end Status

structure InvalidTransition where
  source : Status
  target : Status
  deriving DecidableEq, Repr

def InvalidTransition.message (refused : InvalidTransition) : String :=
  "Invalid module state transition: " ++ refused.source.label ++ " -> " ++ refused.target.label

/-- Why no evaluator is at hand. -/
inductive LoadError where
  | notReady
  | notFound (command : String)
  | load (reason : String)
  deriving DecidableEq, Repr

def LoadError.message : LoadError → String
  | .notReady => "Evaluation module not loaded"
  | .notFound command => "Evaluator not found: " ++ command
  | .load reason => "Failed to load evaluation module: " ++ reason

/-- The load state, with the handle of a loaded evaluator or the reason of a failure. -/
inductive State (μ : Type) where
  | unloaded
  | loading
  | ready (handle : μ)
  | failed (reason : String)
  deriving DecidableEq, Repr

namespace State

variable {μ : Type}

def status : State μ → Status
  | .unloaded => .unloaded
  | .loading => .loading
  | .ready _ => .ready
  | .failed _ => .failed

def handle? : State μ → Option μ
  | .ready handle => some handle
  | _ => none

/-- The reason of the last failure, while it lasts. -/
def failure? : State μ → Option String
  | .failed reason => some reason
  | _ => none

/-- The handle that a program can be given to. -/
def require (state : State μ) : Except LoadError μ :=
  match state with
  | .ready handle => .ok handle
  | _ => .error .notReady

/-- Move to another state. The move may be refused; a move to the same status changes nothing,
so that what the state holds is kept. -/
def advance (state next : State μ) : Except InvalidTransition (Option (State μ)) :=
  if !state.status.canBecome next.status then .error ⟨state.status, next.status⟩
  else if state.status = next.status then .ok none
  else .ok (some next)

/-- A description of the state, with the name of the evaluator between quotes. -/
def describe (name : μ → String) : State μ → String
  | .unloaded => "Unloaded"
  | .loading => "Loading"
  | .ready handle => "Ready(" ++ Text.quoted (name handle) ++ ")"
  | .failed reason => "Failed(" ++ Text.quoted reason ++ ")"

end State

end Scratchpad.Evaluator
