import Scratchpad.Controller.Settle
import Scratchpad.Host.Line
import Scratchpad.Host.Message

/-!
# The host

The host stands between the frontend and the controller. It takes one request at a time, begins
it, waits until the controller is done with it, and answers it; a notice goes out before the
response. Next to the requests runs the start of the program, which reports once when it is
over. Both send their messages to one queue, from which they are written in order.

The host moves by actions like the controller does, so that the requests, the start and the
writing can be interleaved in every way. An action that is not possible changes nothing.
-/

set_option autoImplicit false

namespace Scratchpad

open Session (Notice Snapshot)
open Text.Utf8 (Malformed)

namespace Host

/-! ## Requests -/

/-- The examples of a session in their order, with the selected ones marked. -/
def listing (snapshot : Snapshot) : List Listed :=
  snapshot.examples.map fun entry => ⟨entry, snapshot.selected == some entry.file⟩

/-- Why a notice means that nothing was done. An evaluation error is no such notice: the run
was completed. -/
def refusal? (notice : Notice) : Option String :=
  match notice.kind with
  | .moduleNotReady | .exampleUnavailable => some notice.message
  | .evaluationError => none

/-- The reply to a request that ended with a notice or without one. -/
def replyWith (payload : Payload) (notice : Option Notice) : Reply :=
  match notice.bind refusal? with
  | some reason => .refused reason
  | none => .done payload

/-- The reply to the key that runs the program, made of the reply to the run. -/
def keyReply (run : Reply) : Reply :=
  match run with
  | .done (.state snapshot) => .done (.key true snapshot)
  | _ => .refused (run.reason?.getD "")

def loadReply (snapshot : Snapshot) : Reply :=
  if snapshot.moduleStatus = .failed then
    .refused (snapshot.moduleError.getD "Evaluation module failed to load")
  else .done (.state snapshot)

namespace Request

/-- What a request does to the controller. -/
def action? {μ : Type} : Request → Option (Controller.Action μ)
  | .getState | .listExamples => none
  | .editProgram program => some (.edit program)
  | .clearOutput => some .clear
  | .selectExample file => some (.begin (.selectExample file))
  | .run => some (.begin .run)
  | .keyDown chord => if chord.isRunShortcut then some (.begin .run) else none
  | .loadModule => some (.begin .loadModule)

/-- The reply to a request, given the state and the notice with which it ended. -/
def reply (snapshot : Snapshot) (notice : Option Notice) : Request → Reply
  | .getState | .editProgram _ | .clearOutput => .done (.state snapshot)
  | .listExamples => .done (.examples (listing snapshot))
  | .selectExample _ | .run => replyWith (.state snapshot) notice
  | .keyDown chord =>
    if chord.isRunShortcut then keyReply (replyWith (.state snapshot) notice)
    else .done (.key false snapshot)
  | .loadModule => loadReply snapshot

end Request

/-! ## Tasks -/

/-- How far a request has come. -/
inductive Stage where
  /-- An operation of the controller has to end first. -/
  | awaiting (operation : Nat)
  /-- Only the response is missing; the notice was sent, if there is one. -/
  | answering (notice : Option Notice)
  deriving DecidableEq, Repr

/-- A request that is not answered yet. -/
structure Task where
  id : Option Nat
  request : Request
  stage : Stage
  deriving DecidableEq, Repr

/-- How far the start of the program has come. -/
inductive Start where
  | due
  | running (operation : Nat)
  /-- It was reported, or given up. -/
  | ended
  deriving DecidableEq, Repr

inductive Closing where
  | finished
  | malformed (error : Malformed)
  deriving DecidableEq, Repr

inductive Action (μ : Type) where
  /-- The program starts up. -/
  | start
  /-- The start is over and is reported. -/
  | report
  /-- The next record of the input is read, or its end. -/
  | read
  /-- The operation of a request has ended, and its notice is sent. -/
  | announce
  /-- A request is answered. -/
  | respond
  /-- An activity of the controller gets its answer. -/
  | answer (activity : Nat) (answer : Controller.Answer μ)
  /-- An activity of the controller goes on by itself. -/
  | proceed (activity : Nat)
  /-- The next run of the controller gets its turn. -/
  | grant
  /-- A message is written. -/
  | write

end Host

open Host (Action Closing Envelope Line Message Request Stage Start Task)

/-- The controller, the start, what is left of the input, the request at work, the messages on
their way, those that were written, and how the input ended. -/
structure Host (μ : Type) where
  controller : Controller μ
  start : Start := .due
  input : List (List UInt8) := []
  task : Option Task := none
  queue : List Message := []
  written : List Message := []
  /-- Whether anyone takes messages. -/
  listening : Bool := true
  closing : Option Closing := none

namespace Host

variable {μ : Type}

def new (session program : String) : Host μ :=
  { controller := { session := Session.new session program } }

/-! ## Sending -/

/-- All messages that were sent, in order. -/
def sent (host : Host μ) : List Message :=
  host.written ++ host.queue

def send (host : Host μ) (message : Message) : Host μ :=
  if host.listening then { host with queue := host.queue ++ [message] }
  else { host with controller := host.controller.note [.outputClosed] }

def sendNotice (host : Host μ) : Option Notice → Host μ
  | some notice => host.send (.notice notice)
  | none => host

/-- Write the message that was sent first. -/
def write (host : Host μ) : Host μ :=
  match host.queue with
  | [] => host
  | message :: others => { host with queue := others, written := host.written ++ [message] }

/-! ## The start -/

def beginStart (host : Host μ) : Host μ :=
  match host.start with
  | .due =>
    { host with
      controller := host.controller.begin .start
      start := .running host.controller.operations }
  | _ => host

/-- Report the start, once it is over. -/
def report (host : Host μ) : Host μ :=
  match host.start with
  | .running operation =>
    match host.controller.result? operation with
    | some notice => { host with start := .ended }.sendNotice notice
    | none => host
  | _ => host

/-! ## Requests -/

/-- What a request waits for, once its action is taken. -/
def stageOf (host : Host μ) : Option (Controller.Action μ) → Stage
  | some (.begin _) => .awaiting host.controller.operations
  | _ => .answering none

def accept (host : Host μ) (envelope : Envelope) : Host μ :=
  let action := envelope.request.action?
  { host with
    controller := action.elim host.controller host.controller.step
    task := some ⟨envelope.id, envelope.request, host.stageOf action⟩ }

/-- Turn down a line that is no request. -/
def turnDown (host : Host μ) (report : String) : Host μ :=
  { host with controller := host.controller.note [.malformedRequest report] }.send
    (.response none (.refused ("Invalid request: " ++ report)))

def take (host : Host μ) : Line → Host μ
  | .blank => host
  | .request envelope => host.accept envelope
  | .garbled report => host.turnDown report

/-- Take a record of input. One that is no text ends the input. -/
def takeRecord (host : Host μ) (record : List UInt8) : Host μ :=
  match Line.ofRecord record with
  | .ok line => host.take line
  | .error error => { host with closing := some (.malformed error) }

/-- Whether the host takes input: it works at one request at a time. -/
def isReading (host : Host μ) : Bool :=
  host.task.isNone && host.closing.isNone

/-- The input ends, and with it the start is given up. -/
def close (host : Host μ) : Host μ :=
  { host with start := .ended, closing := some .finished }

/-- Read the next record of the input, or its end. -/
def read (host : Host μ) : Host μ :=
  if host.isReading then
    match host.input with
    | [] => host.close
    | record :: rest => { host with input := rest }.takeRecord record
  else host

/-- Send the notice of the request at work, once its operation has ended. -/
def announce (host : Host μ) : Host μ :=
  match host.task with
  | some ⟨id, request, .awaiting operation⟩ =>
    match host.controller.result? operation with
    | some notice =>
      { host with task := some ⟨id, request, .answering notice⟩ }.sendNotice notice
    | none => host
  | _ => host

/-- Answer the request at work, once nothing else is left to do for it.

The state is taken and the response sent in one action, though a host may well do the one first and
the other later. No other request is at work then, so nothing can be sent in between but the report
of the start. The response stands behind that report, as it does here if it is sent after it, and
the state in it was reached all the same: the order of the messages does not depend on when the
state is taken. -/
def respond (host : Host μ) : Host μ :=
  match host.task with
  | some ⟨id, request, .answering notice⟩ =>
    { host with task := none }.send
      (.response id (request.reply host.controller.session.snapshot notice))
  | _ => host

/-! ## Actions -/

def step (host : Host μ) : Action μ → Host μ
  | .start => host.beginStart
  | .report => host.report
  | .read => host.read
  | .announce => host.announce
  | .respond => host.respond
  | .answer place answer => { host with controller := host.controller.answer place answer }
  | .proceed place => { host with controller := host.controller.proceed place }
  | .grant => { host with controller := host.controller.grant }
  | .write => host.write

def run (host : Host μ) (actions : List (Action μ)) : Host μ :=
  actions.foldl step host

end Host

end Scratchpad
