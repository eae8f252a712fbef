import Scratchpad.Json.Draft
import Scratchpad.Json.Value

/-!
# Readers of drafts

A reader takes from a draft the value it wants, or the first fault on the way. The scalars,
lists and whole values are read here; `Json.Record` has the readers for records.

A value whose kind is wrong is refused in one of two places: an array or object in front of
it, because it is never entered, and anything else behind it, because it is read first.
-/

set_option autoImplicit false

namespace Scratchpad.Json

namespace Draft

/-! ## Scalars -/

/-- The fault of a value that is not of the wanted kind. -/
def refuse (wanted : Wanted) : Draft → Fault
  | .absent _ fault => fault
  | .null _ after => .before (.mismatch .null wanted) after
  | .boolean _ value after => .before (.mismatch (.boolean value) wanted) after
  | .number _ value after => .before (.mismatch (.number value) wanted) after
  | .string _ value after => .before (.mismatch (.text value) wanted) after
  | .malformed _ fault _ => fault
  | .misquoted _ fault _ => fault
  | .array start _ _ => .before (.mismatch .sequence wanted) start
  | .object start _ _ => .before (.mismatch .map wanted) start

def text : Draft → Except Fault String
  | .string _ value _ => .ok value
  | draft => .error (draft.refuse .text)

def text? : Draft → Except Fault (Option String)
  | .null _ _ => .ok none
  | draft => draft.text.map some

def bool : Draft → Except Fault Bool
  | .boolean _ value _ => .ok value
  | draft => .error (draft.refuse .boolean)

/-- A natural number below `2 ^ 64`, or null. -/
def natural? : Draft → Except Fault (Option Nat)
  | .null _ _ => .ok none
  | .number _ (.natural n) _ => .ok (some n)
  | .number _ (.negative n) after =>
    .error (.before (.invalidValue (.number (.negative n)) .unsigned) after)
  | draft => .error (draft.refuse .unsigned)

/-! ## Lists -/

end Draft

def Items.list {α : Type} (read : Draft → Except Fault α) : Items → Except Fault (List α)
  | .close _ => .ok []
  | .item value rest => do
    let a ← read value
    let as ← rest.list read
    return a :: as
  | .stop flaw => .error flaw.fault

namespace Draft

/-- A list whose items are all read in the same way. -/
def list {α : Type} (read : Draft → Except Fault α) : Draft → Except Fault (List α)
  | .array _ items _ => items.list read
  | draft => .error (draft.refuse .sequence)

/-! ## Whole values -/

mutual

/-- Any value. `room` is how many more containers may be opened inside one another. -/
def value (room : Nat) : Draft → Except Fault Value
  | .null _ _ => .ok .null
  | .boolean _ value _ => .ok (.boolean value)
  | .number _ value _ => .ok (.number value)
  | .string _ value _ => .ok (.string value)
  | .absent _ fault => .error fault
  | .malformed _ fault _ => .error fault
  | .misquoted _ fault _ => .error fault
  | .array start items _ =>
    match room with
    | 0 => .error (.peek .tooDeep start)
    | room + 1 => (itemValues room items).map .array
  | .object start members _ =>
    match room with
    | 0 => .error (.peek .tooDeep start)
    | room + 1 => (memberValues room members).map .object

def itemValues (room : Nat) : Items → Except Fault (List Value)
  | .close _ => .ok []
  | .item item rest => do
    let v ← item.value room
    let vs ← itemValues room rest
    return v :: vs
  | .stop flaw => .error flaw.fault

def memberValues (room : Nat) : Members → Except Fault (List (String × Value))
  | .close _ => .ok []
  | .member key _ member rest => do
    let k ← key
    let v ← member.value room
    let others ← memberValues room rest
    return (k, v) :: others
  | .unquoted found => .error (.peek .keyNotString found.start)
  | .stop flaw => .error flaw.fault

end

end Draft

/-- The greatest number of containers inside one another. -/
def nesting : Nat := 127

/-- Read a text that holds one value and nothing after it. -/
def read {α : Type} (reader : Draft → Except Fault α) (text : String) : Except Fault α := do
  let draft := Draft.ofText text.toList
  let a ← reader draft
  let rest ← draft.ending
  match skipSpace rest with
  | [] => return a
  | rest => .error (.peek .trailingCharacters rest)

def parse (text : String) : Except Fault Value :=
  read (Draft.value nesting) text

end Scratchpad.Json
