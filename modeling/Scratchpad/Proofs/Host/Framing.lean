import Mathlib.Algebra.Group.Nat.Defs
import Mathlib.Data.List.Forall2
import Scratchpad.Proofs.Host.Delivery
import Scratchpad.Proofs.Json.Compact
import Scratchpad.Proofs.Text.Split
import Scratchpad.Proofs.Text.Utf8

/-!
# Output without loss

What a frontend can do with the output of the host: cut it at the line feeds, read each piece as
UTF-8 and as JSON, and look the members of a message up by their names. The decoder for that is
given here; nothing else of the program needs it. Whatever was sent comes out of it again, each
message in its turn, whatever its texts hold.
-/

set_option autoImplicit false

namespace Scratchpad

open Json (Value)
open Catalog (Example)
open Evaluator (Status)
open Session (Notice NoticeKind Snapshot Time)

/-! ## Decoding messages -/

namespace Json.Value

def text? : Value → Option String
  | .string text => some text
  | _ => none

def boolean? : Value → Option Bool
  | .boolean on => some on
  | _ => none

def natural? : Value → Option Nat
  | .number (.natural n) => some n
  | _ => none

def nullable? {α : Type} (read : Value → Option α) : Value → Option (Option α)
  | .null => some none
  | value => (read value).map some

def list? {α : Type} (read : Value → Option α) : Value → Option (List α)
  | .array items => items.mapM read
  | _ => none

/-- The member of a name. -/
def member? {α : Type} (name : String) (read : Value → Option α) : Value → Option α
  | .object members => (members.lookup name).bind read
  | _ => none

theorem list?_map {α : Type} {read : Value → Option α} {write : α → Value}
    (inverse : ∀ a, read (write a) = some a) (as : List α) :
    list? read (.array (as.map write)) = some as := by
  induction as with
  | nil => rfl
  | cons a as ih =>
    have rest : (as.map write).mapM read = some as := ih
    simp [list?, inverse, rest]

theorem nullable?_ofText? (text : Option String) : nullable? text? (.ofText? text) = some text := by
  cases text <;> rfl

end Json.Value

open Json.Value

def Catalog.Example.ofValue? (value : Value) : Option Example := do
  return ⟨← value.member? "name" text?, ← value.member? "file" text?⟩

def Host.Listed.ofValue? (value : Value) : Option Listed := do
  return ⟨← Example.ofValue? value, ← value.member? "selected" boolean?⟩

def Session.Snapshot.ofValue? (value : Value) : Option Snapshot := do
  let status ← value.member? "module_status" text?
  return {
    sessionId := ← value.member? "session_id" text?
    program := ← value.member? "program" text?
    moduleStatus := ← Status.choices.lookup status
    moduleError := ← value.member? "module_error" (nullable? text?)
    examples := ← value.member? "examples" (list? Example.ofValue?)
    selected := ← value.member? "selected_example" (nullable? text?)
    lastResult := ← value.member? "last_result" text?
    lastOutput := ← value.member? "last_output" text?
    lastRunAt := (← value.member? "last_run_at" (nullable? text?)).map Time.mk }

def Session.Notice.ofValue? (value : Value) : Option Notice := do
  let kind ← value.member? "kind" text?
  return ⟨← NoticeKind.choices.lookup kind, ← value.member? "message" text?⟩

namespace Host

/-- A list is one of examples, an object with a state in it is about a key, any other is a state. -/
def Payload.ofValue? (value : Value) : Option Payload :=
  match value with
  | .array _ => (list? Listed.ofValue? value).map .examples
  | _ =>
    match value.member? "state" some with
    | some inside => do return .key (← value.member? "ran" boolean?) (← Snapshot.ofValue? inside)
    | none => (Snapshot.ofValue? value).map .state

def Reply.ofValue? (value : Value) : Option Reply := do
  if ← value.member? "success" boolean? then
    return .done (← value.member? "data" Payload.ofValue?)
  else return .refused (← value.member? "error" text?)

/-- Only a notice is an event. -/
def Message.ofValue? (value : Value) : Option Message :=
  match value.member? "event" text? with
  | some "notice" => (value.member? "payload" Notice.ofValue?).map .notice
  | some _ => none
  | none => do
    return .response (← value.member? "id" (nullable? natural?)) (← Reply.ofValue? value)

end Host

namespace Catalog.Example

theorem ofValue?_toValue (entry : Example) : ofValue? entry.toValue = some entry := rfl

end Catalog.Example

namespace Session

theorem Snapshot.ofValue?_toValue (snapshot : Snapshot) :
    ofValue? snapshot.toValue = some snapshot := by
  have label : Status.choices.lookup snapshot.moduleStatus.label = some snapshot.moduleStatus := by
    cases snapshot.moduleStatus <;> rfl
  have error : snapshot.toValue.member? "module_error" (nullable? text?) =
      some snapshot.moduleError :=
    nullable?_ofText? _
  have examples : snapshot.toValue.member? "examples" (list? Example.ofValue?) =
      some snapshot.examples :=
    list?_map Example.ofValue?_toValue _
  have selected : snapshot.toValue.member? "selected_example" (nullable? text?) =
      some snapshot.selected :=
    nullable?_ofText? _
  have time : snapshot.toValue.member? "last_run_at" (nullable? text?) =
      some (snapshot.lastRunAt.map (·.text)) :=
    nullable?_ofText? _
  have again : (snapshot.lastRunAt.map (·.text)).map Time.mk = snapshot.lastRunAt := by
    cases snapshot.lastRunAt <;> rfl
  calc ofValue? snapshot.toValue
    _ = (Status.choices.lookup snapshot.moduleStatus.label).bind fun status =>
        some
          { snapshot with
            moduleStatus := status
            lastRunAt := (snapshot.lastRunAt.map (·.text)).map Time.mk } := by
      rw [ofValue?, error, examples, selected, time]
      rfl
    _ = some snapshot := by rw [label, again, Option.bind_some]

theorem Notice.ofValue?_toValue (notice : Notice) : ofValue? notice.toValue = some notice := by
  obtain ⟨kind, message⟩ := notice
  cases kind <;> rfl

end Session

namespace Host

theorem Listed.ofValue?_toValue (listed : Listed) : ofValue? listed.toValue = some listed := rfl

theorem Payload.ofValue?_toValue (payload : Payload) : ofValue? payload.toValue = some payload := by
  cases payload with
  | state snapshot =>
    change (Snapshot.ofValue? snapshot.toValue).map Payload.state = _
    rw [snapshot.ofValue?_toValue, Option.map_some]
  | examples listed =>
    change (list? Listed.ofValue? (.array (listed.map (·.toValue)))).map Payload.examples = _
    rw [list?_map Listed.ofValue?_toValue, Option.map_some]
  | key ran snapshot =>
    change (Snapshot.ofValue? snapshot.toValue).bind (fun state => some (Payload.key ran state)) = _
    rw [snapshot.ofValue?_toValue, Option.bind_some]

theorem Message.ofValue?_toValue (message : Message) : ofValue? message.toValue = some message := by
  cases message with
  | response id reply =>
    have number : nullable? natural? ((id.map Value.ofNat).getD .null) = some id := by
      cases id <;> rfl
    cases reply with
    | done payload =>
      have data := payload.ofValue?_toValue
      simp [ofValue?, Reply.ofValue?, toValue, member?, List.lookup_cons, number, boolean?, data,
        Reply.success, Reply.payload?]
    | refused reason =>
      simp [ofValue?, Reply.ofValue?, toValue, member?, List.lookup_cons, number, boolean?, text?,
        Reply.success, Reply.reason?, Value.ofText?]
  | notice content =>
    change (Notice.ofValue? content.toValue).map Message.notice = _
    rw [content.ofValue?_toValue, Option.map_some]

/-! ## Lines -/

/-- The number of a response fits 64 bits. -/
def Message.Numbered : Message → Prop
  | .response (some n) _ => n < 2 ^ 64
  | _ => True

theorem exact_ofText? (text : Option String) : (Value.ofText? text).Exact := by
  cases text <;> trivial

theorem depth_ofText? (text : Option String) : (Value.ofText? text).depth = 0 := by
  cases text <;> rfl

theorem exact_snapshot (snapshot : Snapshot) : snapshot.toValue.Exact := by
  simp [Snapshot.toValue, Example.toValue, Exact, MembersExact, itemsExact_iff, exact_ofText?]

theorem depth_snapshot (snapshot : Snapshot) : snapshot.toValue.depth ≤ 3 := by
  have entries : itemsDepth (snapshot.examples.map (·.toValue)) ≤ 1 :=
    itemsDepth_le_iff.mpr (by simp [Example.toValue, depth, membersDepth])
  simp only [Snapshot.toValue, depth, membersDepth, depth_ofText?]
  omega

theorem exact_payload (payload : Payload) : payload.toValue.Exact := by
  cases payload <;>
    simp [Payload.toValue, Listed.toValue, Exact, MembersExact, itemsExact_iff, exact_snapshot]

theorem depth_payload (payload : Payload) : payload.toValue.depth ≤ 4 := by
  cases payload with
  | state snapshot => exact Nat.le_succ_of_le (depth_snapshot snapshot)
  | examples listed =>
    have entries : itemsDepth (listed.map (·.toValue)) ≤ 1 :=
      itemsDepth_le_iff.mpr (by simp [Listed.toValue, depth, membersDepth])
    simp only [Payload.toValue, depth]
    omega
  | key ran snapshot =>
    have inside := depth_snapshot snapshot
    simp only [Payload.toValue, depth, membersDepth]
    omega

theorem Message.Numbered.exact {message : Message} (numbered : message.Numbered) :
    message.toValue.Exact := by
  cases message with
  | response id reply =>
    have number : ((id.map Value.ofNat).getD .null).Exact := by
      cases id with
      | none => trivial
      | some n => exact Nat.le_pred_of_lt numbered
    have data :
        ((reply.payload?.map fun payload : Payload => payload.toValue).getD .null).Exact := by
      cases reply with
      | done payload => exact exact_payload payload
      | refused reason => trivial
    simp [toValue, Exact, MembersExact, number, data, exact_ofText?]
  | notice content => simp [toValue, Notice.toValue, Exact, MembersExact]

theorem depth_message (message : Message) : message.toValue.depth ≤ 5 := by
  cases message with
  | response id reply =>
    have number : ((id.map Value.ofNat).getD .null).depth = 0 := by cases id <;> rfl
    have data :
        ((reply.payload?.map fun payload : Payload => payload.toValue).getD .null).depth ≤ 4 := by
      cases reply with
      | done payload => exact depth_payload payload
      | refused reason => exact Nat.zero_le 4
    simp only [Message.toValue, depth, membersDepth, number, depth_ofText?]
    omega
  | notice content => simp [Message.toValue, Notice.toValue, depth, membersDepth]

/-- The line tells the message: it is UTF-8 for the JSON text of it. -/
def Tells (line : List UInt8) (message : Message) : Prop :=
  ∃ text value, Text.Utf8.decode line = .ok text ∧
    Json.parse (String.ofList text) = .ok value ∧ value = message.toValue ∧
    Message.ofValue? value = some message

theorem tells_render {message : Message} (numbered : message.Numbered) :
    Tells (Text.Utf8.encode message.toValue.render) message := by
  have bounded : message.toValue.depth ≤ Json.nesting :=
    Nat.le_trans (depth_message message) (by decide)
  have parsed : Json.parse message.toValue.compact = .ok message.toValue :=
    Json.parse_eq_ok_iff.mpr ⟨numbered.exact.holds, bounded⟩
  exact ⟨message.toValue.render, message.toValue, Text.Utf8.decode_encode _, parsed, rfl,
    message.ofValue?_toValue⟩

/-- The pieces between the line feeds of the output are the messages, and nothing after the last. -/
theorem split_bytes (messages : List Message) :
    Text.split (· == recordEnd) (Message.bytes messages) =
      (messages.map fun message => Text.Utf8.encode message.toValue.render) ++ [[]] := by
  induction messages with
  | nil => rfl
  | cons message messages ih =>
    have whole : Message.bytes (message :: messages) =
        Text.Utf8.encode message.toValue.render ++ recordEnd :: Message.bytes messages := by
      rw [Message.bytes, Message.text, List.flatMap_cons, Text.Utf8.encode_append, encode_line,
        List.append_assoc]
      rfl
    have free : recordEnd ∉ Text.Utf8.encode message.toValue.render :=
      Text.Utf8.lineFeed_not_mem_encode message.toValue.lineFeed_not_mem_render
    have single : Text.split (· == recordEnd) (Text.Utf8.encode message.toValue.render) =
        [Text.Utf8.encode message.toValue.render] := by
      refine Text.split_eq_singleton fun byte inside => beq_false_of_ne ?_
      rintro rfl
      exact free inside
    calc Text.split (· == recordEnd) (Message.bytes (message :: messages))
      _ = Text.split (· == recordEnd) (Text.Utf8.encode message.toValue.render) ++
          Text.split (· == recordEnd) (Message.bytes messages) := by
        rw [whole]
        exact Text.split_append_separator _ (by simp) _
      _ = _ := by
        rw [single, ih]
        rfl

/-! ## The queue -/

variable {μ : Type}

/-- What happens to the queue: a message is sent, or the first one is written. -/
inductive Move where
  | send (message : Message)
  | write

def move (host : Host μ) : Move → Host μ
  | .send message => host.send message
  | .write => host.write

/-- The messages that are sent, in order. -/
def Move.sent (moves : List Move) : List Message :=
  moves.filterMap fun
    | .send message => some message
    | .write => none

theorem move_sent {host : Host μ} (listening : host.listening = true) (step : Move) :
    (host.move step).listening = true ∧ (host.move step).sent = host.sent ++ Move.sent [step] := by
  cases step with
  | send message => simp [move, send_eq listening, sent, Move.sent, listening]
  | write =>
    unfold move write
    cases queue : host.queue <;> simp [sent, Move.sent, listening, queue]

theorem moves_sent {host : Host μ} (listening : host.listening = true) (moves : List Move) :
    (moves.foldl move host).sent = host.sent ++ Move.sent moves := by
  induction moves generalizing host with
  | nil => simp [Move.sent]
  | cons step moves ih =>
    obtain ⟨heard, one⟩ := move_sent listening step
    rw [List.foldl_cons, ih heard, one, List.append_assoc]
    congr 1
    exact (List.filterMap_append (l := [step])).symm

/-- Whatever is sent is in the output, message by message, once everything is written. -/
theorem output_lossless {host : Host μ} (listening : host.listening = true)
    (fresh : host.sent = []) {moves : List Move}
    (drained : (moves.foldl move host).queue = [])
    (numbered : ∀ message ∈ Move.sent moves, message.Numbered) :
    ∃ lines, Text.split (· == recordEnd) (Message.bytes (moves.foldl move host).written) =
        lines ++ [[]] ∧ List.Forall₂ Tells lines (Move.sent moves) := by
  have all := moves_sent listening moves
  rw [fresh, List.nil_append, sent, drained, List.append_nil] at all
  rw [all]
  refine ⟨_, split_bytes _, ?_⟩
  rw [List.forall₂_map_left_iff]
  exact List.forall₂_same.mpr fun message inside => tells_render (numbered message inside)

/-- The texts are full of what could be taken for the end of something. -/
theorem output_lossless_marks :
    let host : Host String := Host.new "id" "\"a\\b\"\n\r\x00"
    let moves : List Move :=
      [.send (.response (some (2 ^ 64 - 1)) (.done (.key true host.controller.session.snapshot))),
        .write, .send (.notice (.evaluationError "\n")), .send (.response none (.refused "\\n")),
        .write, .write]
    (Move.sent moves).length = 3 ∧
      ∃ lines, Text.split (· == recordEnd) (Message.bytes (moves.foldl move host).written) =
        lines ++ [[]] ∧ List.Forall₂ Tells lines (Move.sent moves) := by
  intro host moves
  refine ⟨rfl, output_lossless rfl rfl rfl ?_⟩
  simp [moves, Move.sent, Message.Numbered]

end Host

end Scratchpad
