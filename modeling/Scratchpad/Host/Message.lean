import Scratchpad.Host.Request
import Scratchpad.Session.Basic
import Scratchpad.Text.Utf8

/-!
# Messages

What the host tells the frontend: the response to a request, or a notice. A message is one JSON
object on a line of its own. Texts are escaped, so a message never holds a line feed and the
line feeds of the output are the ends of its messages.
-/

set_option autoImplicit false

namespace Scratchpad.Host

open Catalog (Example)
open Json (Value)
open Session (Notice Snapshot)

/-- An example as it is listed, with whether it is the selected one. -/
structure Listed where
  entry : Example
  selected : Bool
  deriving DecidableEq, Repr

def Listed.toValue (listed : Listed) : Value :=
  .object [("name", .string listed.entry.name), ("file", .string listed.entry.file),
    ("selected", .boolean listed.selected)]

inductive Payload where
  | state (snapshot : Snapshot)
  | examples (listed : List Listed)
  /-- What came of a key: whether it started a run, and the state afterwards. -/
  | key (ran : Bool) (snapshot : Snapshot)
  deriving DecidableEq, Repr

def Payload.toValue : Payload → Value
  | .state snapshot => snapshot.toValue
  | .examples listed => .array (listed.map (·.toValue))
  | .key ran snapshot => .object [("ran", .boolean ran), ("state", snapshot.toValue)]

inductive Reply where
  | done (payload : Payload)
  | refused (reason : String)
  deriving DecidableEq, Repr

namespace Reply

def success : Reply → Bool
  | .done _ => true
  | .refused _ => false

/-- What the reply carries, unless the request was refused. -/
def payload? : Reply → Option Payload
  | .done payload => some payload
  | .refused _ => none

/-- Why the request was refused, if it was. -/
def reason? : Reply → Option String
  | .done _ => none
  | .refused reason => some reason

end Reply

/-- What the host sends. -/
inductive Message where
  /-- The reply to the request of a number, or to one without. -/
  | response (id : Option Nat) (reply : Reply)
  | notice (content : Notice)
  deriving DecidableEq, Repr

namespace Message

def isResponse : Message → Bool
  | .response _ _ => true
  | .notice _ => false

def toValue : Message → Value
  | .response id reply =>
    .object [("id", (id.map Value.ofNat).getD .null), ("success", .boolean reply.success),
      ("data", (reply.payload?.map (·.toValue)).getD .null), ("error", .ofText? reply.reason?)]
  | .notice content => .object [("event", .string "notice"), ("payload", content.toValue)]

/-- The line of a message, with its line feed. -/
def line (message : Message) : List Char :=
  message.toValue.render ++ ['\n']

def text (messages : List Message) : List Char :=
  messages.flatMap line

def bytes (messages : List Message) : List UInt8 :=
  Text.Utf8.encode (text messages)

end Message

end Scratchpad.Host
