import Scratchpad.Proofs.Host.Steps
import Scratchpad.Proofs.Json.Render
import Scratchpad.Proofs.Text.Lines
import Scratchpad.Proofs.Text.Utf8

/-!
# Every line is answered once

Requests, the start and the writing share one queue, and requests wait for operations that may take
any time. The frontend can still tell the answers apart: they come in the order of the lines, one
for each line that is not blank, and a notice comes right before the answer that it belongs to. Only
the start says something of its own, once at most.
-/

set_option autoImplicit false

namespace Scratchpad.Host

open Session (Notice Snapshot)

variable {μ : Type}

/-! ## What lines are answered with -/

/-- What is said to lines, in their order. The state in an answer is one of those that were
reached. -/
inductive Answered (reached : Snapshot → Prop) : List Line → List Message → Prop where
  | none : Answered reached [] []
  /-- Nothing is said to a blank line. -/
  | blank {lines messages} : Answered reached lines messages →
      Answered reached (lines ++ [.blank]) messages
  /-- A line that is no request is turned down, without a number. -/
  | garbled {lines messages report} : Answered reached lines messages →
      Answered reached (lines ++ [.garbled report])
        (messages ++ [.response none (.refused ("Invalid request: " ++ report))])
  /-- A request is answered under its number, after its notice if it has one. -/
  | request {lines messages envelope snapshot} {notice : Option Notice} :
      Answered reached lines messages → reached snapshot →
      Answered reached (lines ++ [.request envelope])
        (messages ++ notice.toList.map .notice ++
          [.response envelope.id (envelope.request.reply snapshot notice)])

/-- Messages with one more somewhere among them, if there is one more. -/
def Among (extra : Option Message) (messages all : List Message) : Prop :=
  ∃ before after, messages = before ++ after ∧ all = before ++ extra.toList ++ after

theorem Among.none (messages : List Message) : Among .none messages messages :=
  ⟨messages, [], by simp⟩

theorem Among.append {extra : Option Message} {messages all : List Message}
    (among : Among extra messages all) (more : List Message) :
    Among extra (messages ++ more) (all ++ more) := by
  obtain ⟨before, after, rfl, rfl⟩ := among
  exact ⟨before, after ++ more, by simp⟩

theorem Among.insert {messages all : List Message} (among : Among .none messages all)
    (extra : Option Message) : Among extra messages (all ++ extra.toList) := by
  obtain ⟨before, after, rfl, rfl⟩ := among
  exact ⟨before ++ after, [], by simp⟩

/-! ## The invariant -/

/-- The line of the request at work. -/
def atWork (host : Host μ) : List Line :=
  host.task.toList.map fun task => .request ⟨task.id, task.request⟩

/-- What was said to the request at work so far. -/
def underway (host : Host μ) : List Message :=
  match host.task with
  | some ⟨_, _, .answering notice⟩ => notice.toList.map .notice
  | _ => []

/-- How far a host has come with lines: some are done with, one may be at work, the others are
unread. What was sent are the answers to those done with, what was said to the one at work, and what
the start had to say. -/
structure Delivering (reached : Snapshot → Prop) (reported : Notice → Prop) (lines : List Line)
    (host : Host μ) (done unread : List Line) (answers : List Message) (notice : Option Notice) :
    Prop where
  split : lines = done ++ host.atWork ++ unread
  input : host.input.map Line.ofRecord = unread.map .ok
  answered : Answered reached done answers
  sent : Among (notice.map .notice) (answers ++ host.underway) host.sent
  listening : host.listening = true
  closing : host.closing = none ∨
    host.closing = some .finished ∧ host.task = none ∧ host.input = []
  unreported : host.start ≠ .ended → notice = none
  origin : ∀ content ∈ notice, reported content

theorem underway_accept (host : Host μ) (envelope : Envelope) :
    (host.accept envelope).underway = [] := by
  unfold underway accept
  cases envelope.request.action? with
  | none => rfl
  | some action => cases action <;> rfl

theorem of_isReading {host : Host μ} (reading : host.isReading = true) :
    host.task = none ∧ host.closing = none := by
  simpa [isReading] using reading

section Steps

variable {reached : Snapshot → Prop} {reported : Notice → Prop} {lines : List Line}
  {host : Host μ} {done unread : List Line} {answers : List Message} {notice : Option Notice}

/-- The next record is the next line that is unread, and no line is at work when it is read. -/
theorem Delivering.next (valid : Delivering reached reported lines host done unread answers notice)
    (reading : host.isReading = true) {record : List UInt8} {rest : List (List UInt8)}
    (input : host.input = record :: rest) :
    ∃ line others, Line.ofRecord record = .ok line ∧ rest.map Line.ofRecord = others.map .ok ∧
      lines = done ++ line :: others ∧ Among (notice.map .notice) answers host.sent := by
  obtain ⟨idle, _⟩ := of_isReading reading
  have same := valid.input
  rw [input] at same
  cases unread with
  | nil => cases same
  | cons line others =>
    rw [List.map_cons, List.map_cons, List.cons.injEq] at same
    refine ⟨line, others, same.1, same.2, ?_, ?_⟩
    · simpa [atWork, idle] using valid.split
    · simpa [underway, idle] using valid.sent

theorem Delivering.report
    (valid : Delivering reached reported lines host done unread answers notice) {operation : Nat}
    (running : host.start = .running operation) {said : Option Notice}
    (tells : ∀ content ∈ said, reported content) :
    Delivering reached reported lines
      { host with start := .ended, queue := host.queue ++ said.toList.map .notice }
      done unread answers said := by
  have silent : notice = none := valid.unreported (by simp [running])
  subst silent
  refine { valid with sent := ?_, unreported := fun started => absurd rfl started, origin := tells }
  have inserted := valid.sent.insert (said.map .notice)
  rw [Option.toList_map, Host.sent, List.append_assoc] at inserted
  exact inserted

theorem Delivering.accept
    (valid : Delivering reached reported lines host done unread answers notice)
    (reading : host.isReading = true) {record : List UInt8} {rest : List (List UInt8)}
    (input : host.input = record :: rest) {envelope : Envelope}
    (read : Line.ofRecord record = .ok (.request envelope)) :
    ∃ unread, Delivering reached reported lines ({ host with input := rest }.accept envelope)
      done unread answers notice := by
  obtain ⟨_, fresh⟩ := of_isReading reading
  obtain ⟨line, others, same, left, split, sent⟩ := valid.next reading input
  cases read.symm.trans same
  refine ⟨others, { valid with split := ?_, input := left, sent := ?_, closing := .inl fresh }⟩
  · simpa [atWork, Host.accept] using split
  · rw [underway_accept, List.append_nil]
    exact sent

theorem Delivering.turnDown
    (valid : Delivering reached reported lines host done unread answers notice)
    (reading : host.isReading = true) {record : List UInt8} {rest : List (List UInt8)}
    (input : host.input = record :: rest) {report : String} {controller : Controller μ}
    (read : Line.ofRecord record = .ok (.garbled report)) :
    ∃ done unread answers, Delivering reached reported lines
      { host with
        input := rest
        controller
        queue := host.queue ++ [.response none (.refused ("Invalid request: " ++ report))] }
      done unread answers notice := by
  obtain ⟨idle, fresh⟩ := of_isReading reading
  obtain ⟨line, others, same, left, split, sent⟩ := valid.next reading input
  cases read.symm.trans same
  refine ⟨done ++ [.garbled report], others, _,
    { valid with
      split := ?_, input := left, answered := .garbled valid.answered, sent := ?_
      closing := .inl fresh }⟩
  · simpa [atWork, idle] using split
  · simpa [underway, idle, Host.sent] using
      sent.append [.response none (.refused ("Invalid request: " ++ report))]

theorem Delivering.skip
    (valid : Delivering reached reported lines host done unread answers notice)
    (reading : host.isReading = true) {record : List UInt8} {rest : List (List UInt8)}
    (input : host.input = record :: rest) (read : Line.ofRecord record = .ok .blank) :
    ∃ done unread, Delivering reached reported lines { host with input := rest }
      done unread answers notice := by
  obtain ⟨idle, fresh⟩ := of_isReading reading
  obtain ⟨line, others, same, left, split, sent⟩ := valid.next reading input
  cases read.symm.trans same
  refine ⟨done ++ [.blank], others,
    { valid with
      split := ?_, input := left, answered := .blank valid.answered, sent := ?_
      closing := .inl fresh }⟩
  · simpa [atWork, idle] using split
  · simpa [underway, idle, Host.sent] using sent

theorem Delivering.announce
    (valid : Delivering reached reported lines host done unread answers notice)
    {id : Option Nat} {request : Request} {operation : Nat}
    (task : host.task = some ⟨id, request, .awaiting operation⟩) (said : Option Notice) :
    Delivering reached reported lines
      { host with
        task := some ⟨id, request, .answering said⟩
        queue := host.queue ++ said.toList.map .notice }
      done unread answers notice := by
  have busy : host.closing = none := by
    simpa [task] using valid.closing
  refine { valid with split := ?_, sent := ?_, closing := .inl busy }
  · simpa [atWork, task] using valid.split
  · have sent := valid.sent.append (said.toList.map .notice)
    simpa [underway, task, Host.sent] using sent

theorem Delivering.respond
    (valid : Delivering reached reported lines host done unread answers notice)
    {id : Option Nat} {request : Request} {said : Option Notice} {snapshot : Snapshot}
    (task : host.task = some ⟨id, request, .answering said⟩) (shows : reached snapshot) :
    ∃ done answers, Delivering reached reported lines
      { host with
        task := none
        queue := host.queue ++ [.response id (request.reply snapshot said)] }
      done unread answers notice := by
  have busy : host.closing = none := by
    simpa [task] using valid.closing
  have answered : Answered reached (done ++ [.request ⟨id, request⟩])
      (answers ++ said.toList.map .notice ++ [.response id (request.reply snapshot said)]) :=
    .request valid.answered shows
  refine ⟨_, _, { valid with split := ?_, answered, sent := ?_, closing := .inl busy }⟩
  · simpa [atWork, task] using valid.split
  · have sent := valid.sent.append [.response id (request.reply snapshot said)]
    simpa [underway, task, Host.sent] using sent

theorem Delivering.step
    (valid : Delivering reached reported lines host done unread answers notice)
    (action : Action μ) (shows : reached host.controller.session.snapshot)
    (tells : ∀ operation content, action = .report → host.start = .running operation →
      host.controller.result? operation = some (some content) → reported content) :
    ∃ done unread answers notice,
      Delivering reached reported lines (host.step action) done unread answers notice := by
  generalize ends : host.step action = after
  have stepped := step_stepped valid.listening action
  rw [ends] at stepped
  cases stepped with
  | ignored => exact ⟨done, unread, answers, notice, valid⟩
  | worked => exact ⟨done, unread, answers, notice, { valid with }⟩
  | started due =>
    have silent : notice = none := valid.unreported (by simp [due])
    exact ⟨done, unread, answers, notice, { valid with unreported := fun _ => silent }⟩
  | reported running ended =>
    refine ⟨done, unread, answers, _, valid.report running ?_⟩
    rintro content rfl
    exact tells _ content rfl running ended
  | closed reading input =>
    obtain ⟨idle, _⟩ := of_isReading reading
    exact ⟨done, unread, answers, notice,
      { valid with
        closing := .inr ⟨rfl, idle, input⟩, unreported := fun started => absurd rfl started }⟩
  | skipped reading input read =>
    obtain ⟨done, unread, skipped⟩ := valid.skip reading input read
    exact ⟨done, unread, answers, notice, skipped⟩
  | accepted reading input read =>
    obtain ⟨unread, accepted⟩ := valid.accept reading input read
    exact ⟨done, unread, answers, notice, accepted⟩
  | turnedDown reading input read =>
    obtain ⟨done, unread, answers, turnedDown⟩ := valid.turnDown reading input read
    exact ⟨done, unread, answers, notice, turnedDown⟩
  | broken reading input read =>
    -- Every record is a line.
    obtain ⟨line, _, same, _⟩ := valid.next reading input
    cases read.symm.trans same
  | announced task _ => exact ⟨done, unread, answers, notice, valid.announce task _⟩
  | responded task =>
    obtain ⟨done, answers, responded⟩ := valid.respond task shows
    exact ⟨done, unread, answers, notice, responded⟩
  | wrote queued =>
    refine ⟨done, unread, answers, notice, { valid with sent := ?_ }⟩
    have sent := valid.sent
    rw [Host.sent, queued, List.append_cons] at sent
    exact sent

theorem Delivering.run
    (valid : Delivering reached reported lines host done unread answers notice)
    {actions : List (Action μ)}
    (shows : ∀ earlier later, actions = earlier ++ later →
      reached (host.run earlier).controller.session.snapshot)
    (tells : ∀ earlier later operation content, actions = earlier ++ .report :: later →
      (host.run earlier).start = .running operation →
      (host.run earlier).controller.result? operation = some (some content) → reported content) :
    ∃ done unread answers notice,
      Delivering reached reported lines (host.run actions) done unread answers notice := by
  induction actions generalizing host done unread answers notice with
  | nil => exact ⟨done, unread, answers, notice, valid⟩
  | cons action actions ih =>
    have told (operation : Nat) (content : Notice) (is : action = .report) :=
      tells [] actions operation content (by rw [is]; rfl)
    obtain ⟨done, unread, answers, notice, stepped⟩ := valid.step action (shows [] _ rfl) told
    apply ih stepped
    · intro earlier later split
      exact shows (action :: earlier) later (congrArg _ split)
    · intro earlier later operation content split
      exact tells (action :: earlier) later operation content (congrArg _ split)

end Steps

/-! ## Messages as lines -/

theorem encode_line (message : Message) :
    Text.Utf8.encode message.line = Text.Utf8.encode message.toValue.render ++ [recordEnd] := by
  rw [Message.line, Text.Utf8.encode_append, Text.Utf8.encode_lineFeed]
  rfl

/-- The records of the output are the lines of its messages. -/
theorem records_bytes (messages : List Message) :
    Text.records recordEnd (Message.bytes messages) =
      messages.map fun message => Text.Utf8.encode message.line := by
  have lines : Message.bytes messages =
      (messages.map fun message => Text.Utf8.encode message.toValue.render).flatMap
        (· ++ [recordEnd]) := by
    rw [List.flatMap_map, Message.bytes, Message.text, Text.Utf8.encode, List.flatMap_assoc]
    exact congrArg (messages.flatMap ·) (funext encode_line)
  rw [lines, Text.records_flatMap_line, List.map_map]
  · exact List.map_congr_left fun message _ => (encode_line message).symm
  · intro line member
    obtain ⟨message, _, rfl⟩ := List.mem_map.mp member
    exact Text.Utf8.lineFeed_not_mem_encode message.toValue.lineFeed_not_mem_render

/-! ## Delivery -/

/-- A host with its input before it. -/
def facing (controller : Controller μ) (input : List UInt8) : Host μ :=
  { controller, input := Text.records recordEnd input }

/-- A state that a run comes through. -/
def Visited (start : Host μ) (actions : List (Action μ)) (snapshot : Snapshot) : Prop :=
  ∃ earlier later, actions = earlier ++ later ∧
    (start.run earlier).controller.session.snapshot = snapshot

/-- What the start had to say when it was over. -/
def Reported (start : Host μ) (actions : List (Action μ)) (content : Notice) : Prop :=
  ∃ earlier later operation, actions = earlier ++ .report :: later ∧
    (start.run earlier).start = .running operation ∧
    (start.run earlier).controller.result? operation = some (some content)

/-- What was written once a host is done with lines. -/
structure Delivered (start : Host μ) (actions : List (Action μ)) (lines : List Line) : Prop where
  /-- The answers to the lines, with what the start had to say somewhere among them. -/
  answered : ∃ answers, ∃ notice : Option Notice, Answered (Visited start actions) lines answers ∧
    Among (notice.map .notice) answers (start.run actions).written ∧
    ∀ content ∈ notice, Reported start actions content
  /-- Nothing that was sent is lost, doubled or moved. -/
  kept : ∀ earlier later, actions = earlier ++ later →
    (start.run earlier).sent <+: (start.run actions).written
  /-- Every message is a line of its own. -/
  lines : Text.records recordEnd (Message.bytes (start.run actions).written) =
    (start.run actions).written.map fun message => Text.Utf8.encode message.line

theorem Line.ofRecord_encode (text : List Char) :
    Line.ofRecord (Text.Utf8.encode text) = .ok (Line.ofText text) := by
  rw [Line.ofRecord, Text.Utf8.decode_encode]
  rfl

/-- However the requests, the start and the writing are interleaved, every line is answered in its
turn, once the input has ended and everything is written. -/
theorem every_line_answered_once (controller : Controller μ) (input : List UInt8)
    {lines : List Line} {actions : List (Action μ)}
    (decoded : (Text.records recordEnd input).map Line.ofRecord = lines.map .ok)
    (closed : ((facing controller input).run actions).closing = some .finished)
    (drained : ((facing controller input).run actions).queue = []) :
    Delivered (facing controller input) actions lines := by
  have written : ((facing controller input).run actions).sent =
      ((facing controller input).run actions).written := by
    rw [sent, drained, List.append_nil]
  constructor
  case answered =>
    have fresh : Delivering (Visited (facing controller input) actions)
        (Reported (facing controller input) actions) lines (facing controller input)
        [] lines [] none :=
      { split := rfl, input := decoded, answered := .none, sent := .none []
        listening := rfl, closing := .inl rfl, unreported := fun _ => rfl, origin := by simp }
    obtain ⟨done, unread, answers, notice, valid⟩ := fresh.run
      (fun earlier later split => ⟨earlier, later, split, rfl⟩)
      fun earlier later operation content split running ended =>
        ⟨earlier, later, operation, split, running, ended⟩
    have ended := valid.closing
    simp only [closed, reduceCtorEq, true_and, false_or] at ended
    obtain ⟨idle, finished⟩ := ended
    have none_left : unread = [] := by simpa [finished] using valid.input
    have all : lines = done := by simpa [atWork, idle, none_left] using valid.split
    refine ⟨answers, notice, all ▸ valid.answered, ?_, valid.origin⟩
    simpa [underway, idle, written] using valid.sent
  case kept =>
    intro earlier later split
    rw [← written, split, run_append]
    exact sent_isPrefix_run (listening_run rfl earlier) later
  case lines => exact records_bytes _

/-- A program is to run while the evaluator is still being loaded. -/
theorem every_line_answered_once_around_start :
    let controller : Controller String := { session := Session.new "id" "program" }
    let input := Text.Utf8.encode " \n\x7b\"id\":7,\"command\":5\x7d".toList
    let actions : List (Action String) :=
      [.start, .read, .read, .answer 0 (.fetched (.ok "[]")), .proceed 1, .grant, .proceed 2,
        .proceed 2, .proceed 2, .announce, .write, .answer 1 (.loaded (.ok "evaluator")), .report,
        .respond, .write, .read]
    ((facing controller input).run actions).written.map Message.isResponse = [false, true] ∧
      Delivered (facing controller input) actions [.blank, .request ⟨some 7, .run⟩] := by
  intro controller input actions
  have records : Text.records recordEnd input =
      [" \n", "\x7b\"id\":7,\"command\":5\x7d"].map (Text.Utf8.encode ·.toList) := by
    decide +kernel
  have request : Line.ofText "\x7b\"id\":7,\"command\":5\x7d".toList =
      .request ⟨some 7, .run⟩ := by
    decide +kernel
  have blank : Line.ofText " \n".toList = .blank := by decide +kernel
  have decoded : (Text.records recordEnd input).map Line.ofRecord =
      [Line.blank, .request ⟨some 7, .run⟩].map .ok := by
    simp only [records, List.map_cons, List.map_nil, Line.ofRecord_encode, blank, request]
  exact ⟨by decide +kernel,
    every_line_answered_once controller input decoded (by decide +kernel) (by decide +kernel)⟩

end Scratchpad.Host
