import Scratchpad.Catalog.Source
import Scratchpad.Session.Basic

/-!
# The controller

The controller owns the session and does what takes time around it: fetching the manifest and
examples, loading the evaluator, running programs. Nothing here waits. An operation becomes one
or more activities, each of which is always in some phase: it waits for an answer from outside,
it waits for its turn to run, it is about to go on by itself, or it is finished. One action moves
the controller from one state to the next and looks at the session once, so an interleaving of
operations is a list of actions, and every list of actions is an interleaving.

* At most one run has the turn at a time. Runs take turns in the order in which they were asked
  for. Each looks at the evaluator and the program only when it has its turn, and gives the turn
  up only when its outcome is in the session.
* An evaluator is loaded only by the activity that claimed the load from the session.
* A first example remembers the program for which it was fetched.
-/

set_option autoImplicit false

namespace Scratchpad

open Catalog (Example)
open Evaluator (Evaluation LoadError)
open Session (Event Notice Time UnknownExample)

namespace Controller

/-- What the user or the program can ask for. -/
inductive Operation where
  /-- Load catalog and evaluator side by side. -/
  | start
  | loadModule
  | loadCatalog
  | loadExample (entry : Example)
  | selectExample (file : String)
  | run
  deriving DecidableEq, Repr

/-- How far an activity has come. -/
inductive Phase (μ : Type) where
  /-- The manifest is being fetched. -/
  | manifest
  /-- The catalog is in the session, and the program is about to be looked at. -/
  | listed (first : Example)
  /-- The first example is being fetched; the program was `base` when that began. -/
  | firstExample (entry : Example) (base : String)
  /-- A file is about to be looked up in the catalog. -/
  | selecting (file : String)
  /-- A file that the catalog does not have is about to be reported. -/
  | unlisted (unknown : UnknownExample)
  /-- An example that was asked for is being fetched. -/
  | chosenExample (entry : Example)
  /-- The load is about to be claimed. -/
  | claiming
  /-- The evaluator is being loaded, for the `number`-th time. -/
  | loading (number : Nat)
  /-- A run waits for its turn. -/
  | queued
  /-- A run has its turn, and is about to look at the evaluator and the program. -/
  | onTurn
  /-- A run found no evaluator, and is about to say so. -/
  | turnedDown
  /-- The evaluator is at work. -/
  | evaluating (handle : μ) (program : String)
  /-- A run is over, and is about to give up its turn. -/
  | yielding (notice : Option Notice)
  | finished (notice : Option Notice)
  deriving DecidableEq, Repr

namespace Phase

variable {μ : Type}

def isFinished : Phase μ → Bool
  | .finished _ => true
  | _ => false

def isQueued : Phase μ → Bool
  | .queued => true
  | _ => false

/-- A run that no other run may overlap. -/
def hasTurn : Phase μ → Bool
  | .onTurn | .turnedDown | .evaluating _ _ | .yielding _ => true
  | _ => false

/-- The notice that an activity ended with. -/
def notice? : Phase μ → Option Notice
  | .finished notice => notice
  | _ => none

end Phase

/-- What an activity asks from outside. -/
inductive Call (μ : Type) where
  | fetch (path : String)
  | load (number : Nat)
  | evaluate (handle : μ) (program : String)
  deriving DecidableEq, Repr

/-- What an activity in a phase has asked for. -/
def Phase.call? {μ : Type} : Phase μ → Option (Call μ)
  | .manifest => some (.fetch Catalog.manifestFile)
  | .firstExample entry _ => some (.fetch entry.file)
  | .chosenExample entry => some (.fetch entry.file)
  | .loading number => some (.load number)
  | .evaluating handle program => some (.evaluate handle program)
  | _ => none

inductive Answer (μ : Type) where
  | fetched (result : Except Catalog.Error String)
  | loaded (result : Except LoadError μ)
  | evaluated (evaluation : Evaluation) (time : Time)

/-- A part of an operation; operations are numbered from zero. -/
structure Activity (μ : Type) where
  operation : Nat
  phase : Phase μ
  deriving DecidableEq, Repr

inductive Action (μ : Type) where
  | begin (operation : Operation)
  | edit (program : String)
  | clear
  /-- The activity at a place gets its answer. -/
  | answer (activity : Nat) (answer : Answer μ)
  | proceed (activity : Nat)
  /-- The first run that waits gets its turn. -/
  | grant

end Controller

open Controller (Action Activity Answer Operation Phase)

/-- The session, the activities in the order in which they began, how often the evaluator was
asked for, how many operations were begun, and what was logged. -/
structure Controller (μ : Type) where
  session : Session μ
  activities : List (Activity μ) := []
  loads : Nat := 0
  operations : Nat := 0
  log : List Log.Entry := []

namespace Controller

variable {μ : Type}

/-! ## Activities -/

def phase? (controller : Controller μ) (place : Nat) : Option (Phase μ) :=
  (controller.activities[place]?).map (·.phase)

def turnTaken (controller : Controller μ) : Bool :=
  controller.activities.any (·.phase.hasTurn)

/-- Put the activity at a place into a phase. -/
def enter (controller : Controller μ) (place : Nat) (phase : Phase μ) : Controller μ :=
  { controller with
    activities := controller.activities.modify place fun activity => { activity with phase } }

def note (controller : Controller μ) (entries : List Log.Entry) : Controller μ :=
  { controller with log := controller.log ++ entries }

def apply (controller : Controller μ) (event : Event μ) : Controller μ :=
  let reaction := controller.session.apply event
  { controller with session := reaction.session, log := controller.log ++ reaction.log }

def noticeOf (controller : Controller μ) (event : Event μ) : Option Notice :=
  (controller.session.apply event).notice

/-! ## Operations -/

/-- The phases in which the activities of an operation begin. -/
def Operation.phases : Operation → List (Phase μ)
  | .start => [.manifest, .claiming]
  | .loadModule => [.claiming]
  | .loadCatalog => [.manifest]
  | .loadExample entry => [.chosenExample entry]
  | .selectExample file => [.selecting file]
  | .run => [.queued]

def begin (controller : Controller μ) (operation : Operation) : Controller μ :=
  { controller with
    activities :=
      controller.activities ++ operation.phases.map fun phase => ⟨controller.operations, phase⟩
    operations := controller.operations + 1 }

/-! ## Events of activities -/

def manifestEvent : Except Catalog.Error (List Example) → Event μ
  | .ok examples => .catalogLoaded examples
  | .error error => .catalogLoadFailed error.message

/-- What an answer is for the session. An answer to nothing that was asked is nothing. -/
def Phase.eventOn : Phase μ → Answer μ → Option (Event μ)
  | .manifest, .fetched result => some (manifestEvent (Catalog.ofManifest result))
  | .firstExample entry base, .fetched (.ok program) =>
    some (.defaultExampleLoaded entry.file program base)
  | .firstExample entry _, .fetched (.error error)
  | .chosenExample entry, .fetched (.error error) =>
    some (.exampleLoadFailed entry.file error.message)
  | .chosenExample entry, .fetched (.ok program) => some (.exampleLoaded entry.file program)
  | .loading _, .loaded (.ok handle) => some (.moduleLoaded handle)
  | .loading _, .loaded (.error error) => some (.moduleLoadFailed error.message)
  | .evaluating _ _, .evaluated evaluation time => some (.runCompleted evaluation time)
  | _, _ => none

/-- What an activity has to tell the session without any answer. -/
def Phase.eventDue : Phase μ → Option (Event μ)
  | .unlisted unknown => some (.exampleLoadFailed unknown.file unknown.message)
  | .turnedDown => some .runRejected
  | _ => none

/-- The phase after an event that gave a notice. The first example of a catalog is fetched next,
and a run still has the turn. -/
def Phase.afterEvent (notice : Option Notice) : Phase μ → Event μ → Phase μ
  | .manifest, .catalogLoaded (first :: _) => .listed first
  | .turnedDown, _ | .evaluating _ _, _ => .yielding notice
  | _, _ => .finished notice

def conclude (controller : Controller μ) (place : Nat) (phase : Phase μ) (event : Event μ) :
    Controller μ :=
  (controller.apply event).enter place (phase.afterEvent (controller.noticeOf event) event)

def answer (controller : Controller μ) (place : Nat) (answer : Answer μ) : Controller μ :=
  match controller.phase? place with
  | some phase =>
    match phase.eventOn answer with
    | some event => controller.conclude place phase event
    | none => controller
  | none => controller

/-! ## Going on -/

/-- The activity at a place begins to load the evaluator, if the session lets it. -/
def claim (controller : Controller μ) (place : Nat) : Controller μ :=
  match controller.session.beginLoad? with
  | some session =>
    { controller with session, loads := controller.loads + 1 }.enter place
      (.loading (controller.loads + 1))
  | none => controller.enter place (.finished none)

def lookUp (controller : Controller μ) (place : Nat) (file : String) : Controller μ :=
  match controller.session.entry file with
  | .ok entry => controller.enter place (.chosenExample entry)
  | .error unknown => controller.enter place (.unlisted unknown)

/-- The run at a place has its turn: it looks at the evaluator and the program at once. -/
def look (controller : Controller μ) (place : Nat) : Controller μ :=
  match controller.session.evaluator.require with
  | .ok handle => controller.enter place (.evaluating handle controller.session.program)
  | .error _ => controller.enter place .turnedDown

/-- The activity at a place, with nothing to tell the session, goes on. One that waits for an
answer or its turn stays where it is. -/
def goOn (controller : Controller μ) (place : Nat) : Phase μ → Controller μ
  | .listed first => controller.enter place (.firstExample first controller.session.program)
  | .selecting file => controller.lookUp place file
  | .claiming => controller.claim place
  | .onTurn => controller.look place
  | .yielding notice => controller.enter place (.finished notice)
  | _ => controller

def proceed (controller : Controller μ) (place : Nat) : Controller μ :=
  match controller.phase? place with
  | some phase =>
    match phase.eventDue with
    | some event => controller.conclude place phase event
    | none => controller.goOn place phase
  | none => controller

/-- Give the turn to the first run that waits, unless another run has it. -/
def grant (controller : Controller μ) : Controller μ :=
  if controller.turnTaken then controller
  else match controller.activities.findIdx? (·.phase.isQueued) with
    | some place => controller.enter place .onTurn
    | none => controller

/-! ## Actions -/

def step (controller : Controller μ) : Action μ → Controller μ
  | .begin operation => controller.begin operation
  | .edit program => controller.apply (.programEdited program)
  | .clear => controller.apply .outputCleared
  | .answer place answer => controller.answer place answer
  | .proceed place => controller.proceed place
  | .grant => controller.grant

def run (controller : Controller μ) (actions : List (Action μ)) : Controller μ :=
  actions.foldl step controller

/-! ## Results -/

def activitiesOf (controller : Controller μ) (operation : Nat) : List (Activity μ) :=
  controller.activities.filter (·.operation == operation)

/-- The notice of an operation, once all its activities are finished. -/
def result? (controller : Controller μ) (operation : Nat) : Option (Option Notice) :=
  let own := controller.activitiesOf operation
  if own.all (·.phase.isFinished) then some (own.findSome? (·.phase.notice?)) else none

end Controller

end Scratchpad
