import Scratchpad.Controller.Settle
import Scratchpad.Evaluator.Rehearsal

/-!
# Rehearsing a controller

A controller over resources in memory and a rehearsed evaluator, with gates at which calls can
be held. A call to a held gate waits for a permit; permits are handed out in the order of
arrival and are kept when nobody waits. What a resource holds is looked up when its fetch is
let through.
-/

set_option autoImplicit false

namespace Scratchpad.Controller

open Evaluator (Rehearsal Rehearsed)

/-- The gate that a call passes: a resource has its own, loads and evaluations have one each. -/
def Call.gate {μ : Type} : Call μ → String
  | .fetch path => path
  | .load _ => "load"
  | .evaluate _ _ => "invoke"

structure Rehearsing where
  controller : Controller Rehearsed
  rehearsal : Rehearsal
  resources : List (String × String)
  /-- The time at which every run ends. -/
  now : Session.Time
  /-- The gates that hold calls back. -/
  held : List String := []
  /-- Permits that nobody has taken yet. -/
  permits : List String := []
  /-- The activities that wait at a gate, in the order of their arrival. -/
  waiting : List (String × Nat) := []
  /-- The activities whose answers are on their way. -/
  admitted : List Nat := []
  /-- The calls made since they were last looked at. -/
  calls : List (Call Rehearsed) := []

namespace Rehearsing

/-- What stands outside, as it is now. -/
def surroundings (stage : Rehearsing) : Surroundings Rehearsed where
  fetch := Catalog.Source.fromMemory stage.resources
  load := stage.rehearsal.load
  evaluate _ program := stage.rehearsal.evaluate program
  now := stage.now

/-- An activity makes a call: it goes through, takes a permit or waits. -/
def submit (stage : Rehearsing) (place : Nat) (call : Call Rehearsed) : Rehearsing :=
  let stage := { stage with calls := stage.calls ++ [call] }
  if !stage.held.contains call.gate then { stage with admitted := place :: stage.admitted }
  else if stage.permits.contains call.gate then
    { stage with
      permits := stage.permits.erase call.gate
      admitted := place :: stage.admitted }
  else { stage with waiting := stage.waiting ++ [(call.gate, place)] }

def act (stage : Rehearsing) (action : Action Rehearsed) : Rehearsing :=
  { stage with controller := stage.controller.step action }

def reply (stage : Rehearsing) (place : Nat) (call : Call Rehearsed) : Rehearsing :=
  { stage with admitted := stage.admitted.filter (· != place) }.act
    (.answer place (stage.surroundings.answer call))

def isWaiting (stage : Rehearsing) (place : Nat) : Bool :=
  stage.waiting.any (·.2 == place)

/-- Make a move. An activity makes its call before it gets an answer. -/
def go (stage : Rehearsing) (move : Move) : Rehearsing :=
  match move, move.call? stage.controller with
  | .reply place, some call =>
    if stage.admitted.contains place then stage.reply place call else stage.submit place call
  | .proceed place, _ => stage.act (.proceed place)
  | _, _ => stage.act .grant

/-- Move on, at most the given number of times. -/
def moves : Nat → Rehearsing → Rehearsing
  | 0, stage => stage
  | count + 1, stage =>
    match stage.controller.move? (!stage.isWaiting ·) with
    | some move => moves count (stage.go move)
    | none => stage

/-- Move on until nobody can. The activity that began first goes as far as it can before the
next one makes its call. Each answer takes two moves, one for the call and one for the answer. -/
def settle (stage : Rehearsing) : Rehearsing :=
  moves (2 * stage.controller.distance) stage

/-- Hand out a permit: to the activity that has waited longest, or to whoever comes next. -/
def permit (stage : Rehearsing) (gate : String) : Rehearsing :=
  match stage.waiting.find? (·.1 == gate) with
  | some (_, place) =>
    { stage with
      waiting := stage.waiting.filter (· != (gate, place))
      admitted := place :: stage.admitted }
  | none => { stage with permits := gate :: stage.permits }

/-- Give a resource a new text, or remove it. -/
def setResource (stage : Rehearsing) (path : String) (text : Option String) : Rehearsing :=
  let others := stage.resources.filter (·.1 != path)
  { stage with
    resources := match text with
      | some text => (path, text) :: others
      | none => others }

end Rehearsing

end Scratchpad.Controller
