import Scratchpad.Evaluator.State

/-!
# Rehearsed evaluators

An evaluator that answers from a table and a loader that follows a script, for playing a
session through without running anything. Successive loads take their results from the
script in order; the last one repeats, and an empty script means that every load succeeds.
-/

set_option autoImplicit false

namespace Scratchpad.Evaluator

inductive ScriptedLoad where
  | ready
  | failed (error : LoadError)
  deriving DecidableEq, Repr

/-- The handle of a rehearsed evaluator: which load it came from, counted from one. -/
structure Rehearsed where
  load : Nat
  deriving DecidableEq, Repr

def Rehearsed.name (handle : Rehearsed) : String :=
  "m" ++ toString handle.load

/-- A script for loads, and what the evaluator answers. -/
structure Rehearsal where
  loads : List ScriptedLoad := []
  table : List (String × Evaluation) := []
  /-- Programs that are not in the table are their own value. -/
  echo : Bool := false
  deriving Repr

namespace Rehearsal

/-- The step of the script for the load of the given number, counted from one. -/
def step (rehearsal : Rehearsal) (number : Nat) : ScriptedLoad :=
  match rehearsal.loads[number - 1]? with
  | some result => result
  | none => rehearsal.loads.getLast?.getD .ready

def load (rehearsal : Rehearsal) (number : Nat) : Except LoadError Rehearsed :=
  match rehearsal.step number with
  | .ready => .ok ⟨number⟩
  | .failed error => .error error

def evaluate (rehearsal : Rehearsal) (program : String) : Evaluation :=
  match rehearsal.table.lookup program with
  | some evaluation => evaluation
  | none =>
    if rehearsal.echo then .ok program
    else .err ("cannot evaluate `" ++ program ++ "`")

end Rehearsal

/-- A rehearsal under way: how often a load was asked for, and the evaluator's state. -/
structure Stage where
  rehearsal : Rehearsal
  loads : Nat := 0
  state : State Rehearsed := .unloaded

namespace Stage

/-- Load once more. The state changes only if the load succeeds. -/
def load (stage : Stage) : Except LoadError Rehearsed × Stage :=
  let number := stage.loads + 1
  let stage := { stage with loads := number }
  match stage.rehearsal.load number with
  | .ok handle => (.ok handle, { stage with state := .ready handle })
  | .error error => (.error error, stage)

def invoke (stage : Stage) (program : String) : Except LoadError Evaluation :=
  stage.state.require.map fun _ => stage.rehearsal.evaluate program

end Stage

end Scratchpad.Evaluator
