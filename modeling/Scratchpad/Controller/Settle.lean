import Scratchpad.Controller.Basic

/-!
# Letting a controller settle

Outside the controller stand the fetcher, the loader and the evaluator. Given what they answer,
a controller settles by one move after the other: the first activity that can go on does. Every
move takes an activity nearer to its end, so settling comes to one.
-/

set_option autoImplicit false

namespace Scratchpad.Controller

open Evaluator (Evaluation LoadError)
open Session (Time)

variable {μ : Type}

/-- What stands outside: how it answers each call. -/
structure Surroundings (μ : Type) where
  fetch : String → Except Catalog.Error String
  load : Nat → Except LoadError μ
  evaluate : μ → String → Evaluation
  now : Time

def Surroundings.answer (surroundings : Surroundings μ) : Call μ → Answer μ
  | .fetch path => .fetched (surroundings.fetch path)
  | .load number => .loaded (surroundings.load number)
  | .evaluate handle program =>
    .evaluated (surroundings.evaluate handle program) surroundings.now

inductive Move where
  | reply (place : Nat)
  | proceed (place : Nat)
  | grant
  deriving DecidableEq, Repr

/-- How the activity in a phase can go on, if it can. -/
def Phase.move? (taken : Bool) (place : Nat) (phase : Phase μ) : Option Move :=
  match phase.call?, phase with
  | some _, _ => some (.reply place)
  | none, .queued => if taken then none else some .grant
  | none, .finished _ => none
  | none, _ => some (.proceed place)

/-- How the first activity that can go on does, if the calls at those places are not held. -/
def move? (controller : Controller μ) (free : Nat → Bool) : Option Move :=
  controller.activities.zipIdx.findSome? fun (activity, place) =>
    match activity.phase.move? controller.turnTaken place with
    | some (.reply place) => if free place then some (.reply place) else none
    | other => other

def Move.call? (controller : Controller μ) : Move → Option (Call μ)
  | .reply place => (controller.phase? place).bind (·.call?)
  | .proceed _ | .grant => none

def Move.action (surroundings : Surroundings μ) (controller : Controller μ) (move : Move) :
    Action μ :=
  match move, move.call? controller with
  | .reply place, some call => .answer place (surroundings.answer call)
  | .proceed place, _ => .proceed place
  | _, _ => .grant

/-- How many moves an activity is from its end, at most. -/
def Phase.distance : Phase μ → Nat
  | .queued => 4
  | .manifest | .onTurn => 3
  | .listed _ | .selecting _ | .claiming | .turnedDown | .evaluating _ _ => 2
  | .firstExample _ _ | .unlisted _ | .chosenExample _ | .loading _ | .yielding _ => 1
  | .finished _ => 0

def distance (controller : Controller μ) : Nat :=
  controller.activities.foldr (fun activity total => activity.phase.distance + total) 0

/-- Move on, at most the given number of times. -/
def moves (surroundings : Surroundings μ) : Nat → Controller μ → Controller μ
  | 0, controller => controller
  | count + 1, controller =>
    match controller.move? fun _ => true with
    | some move => moves surroundings count (controller.step (move.action surroundings controller))
    | none => controller

/-- Move on until nothing is left to do. -/
def settle (surroundings : Surroundings μ) (controller : Controller μ) : Controller μ :=
  moves surroundings controller.distance controller

end Scratchpad.Controller
