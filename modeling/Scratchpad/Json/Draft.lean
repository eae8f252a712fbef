import Scratchpad.Json.Quote

/-!
# Drafts of JSON texts

A draft is a JSON text cut into values, items and members without any judgement of what was
wanted. Cutting never fails: where the text is not JSON, the draft holds the fault in its
place, and a reader that walks the draft in order meets the first fault it cares about. That
matters because readers differ. One that needs a text refuses a lone surrogate, one that
passes over a member does not; one that wants a record reports a comma before the end as
such, one that passes over it reports a missing value.

Every draft knows the text from its first character on (`start`) and, as `ending`, the text
after it as seen by a reader that passes over it.
-/

set_option autoImplicit false

namespace Scratchpad.Json

/-- The blanks that JSON allows between tokens. -/
def isSpace (c : Char) : Bool :=
  c == ' ' || c == '\t' || c == '\n' || c == '\r'

/-- The text from its first token on. -/
def skipSpace (cs : List Char) : List Char :=
  cs.dropWhile isSpace

/-- Why the items of an array do not go on where they should. -/
inductive ItemFlaw where
  /-- The text ends where an item, a comma or the end of the array was due. -/
  | ends
  /-- Something else stands where a comma was due. -/
  | unseparated (rest : List Char)
  /-- A comma stands before the end of the array. -/
  | dangling (rest : List Char)
  /-- The item before has no end. -/
  | endless (fault : Fault)
  deriving DecidableEq, Repr

/-- Why the members of an object do not go on where they should. -/
inductive MemberFlaw where
  /-- The text ends where a key, a comma or the end of the object was due. -/
  | ends
  /-- Something else stands where a comma was due. -/
  | unseparated (rest : List Char)
  /-- A comma stands before the end of the object. -/
  | dangling (rest : List Char)
  /-- The text ends after a comma. -/
  | missing
  /-- The member before has no end. -/
  | endless (fault : Fault)
  deriving DecidableEq, Repr

mutual

/-- A value as it stands in a text. -/
inductive Draft where
  /-- No value begins here. -/
  | absent (start : List Char) (fault : Fault)
  | null (start after : List Char)
  | boolean (start : List Char) (value : Bool) (after : List Char)
  | number (start : List Char) (value : Number) (after : List Char)
  | string (start : List Char) (value : String) (after : List Char)
  /-- A literal or a number that is misspelt or out of range. -/
  | malformed (start : List Char) (fault : Fault) (ending : Except Fault (List Char))
  /-- A string that stands for no text. -/
  | misquoted (start : List Char) (fault : Fault) (ending : Except Fault (List Char))
  | array (start : List Char) (items : Items) (ending : Except Fault (List Char))
  | object (start : List Char) (members : Members) (ending : Except Fault (List Char))

/-- The items of an array, from some point on. -/
inductive Items where
  | close (after : List Char)
  | item (value : Draft) (rest : Items)
  | stop (flaw : ItemFlaw)

/-- The members of an object, from some point on. -/
inductive Members where
  | close (after : List Char)
  /-- A key, the text after it and its value. -/
  | member (key : Except Fault String) (colon : List Char) (value : Draft) (rest : Members)
  /-- A key that does not begin with a quote. -/
  | unquoted (found : Draft)
  | stop (flaw : MemberFlaw)

end

/-! ## Flaws as faults -/

/-- The fault that a flaw is to those who want the items. -/
def ItemFlaw.fault : ItemFlaw → Fault
  | .ends => ⟨.listEnds, 0⟩
  | .unseparated rest => .peek .listCommaOrEndExpected rest
  | .dangling rest => .peek .trailingComma rest
  | .endless fault => fault

/-- The fault that a flaw is to those who pass over the items. -/
def ItemFlaw.passing : ItemFlaw → Fault
  | .dangling rest => .peek .valueExpected rest
  | flaw => flaw.fault

/-- The fault that a flaw is to those who want the members. -/
def MemberFlaw.fault : MemberFlaw → Fault
  | .ends => ⟨.objectEnds, 0⟩
  | .unseparated rest => .peek .objectCommaOrEndExpected rest
  | .dangling rest => .peek .trailingComma rest
  | .missing => ⟨.valueEnds, 0⟩
  | .endless fault => fault

/-- The fault that a flaw is to those who pass over the members. -/
def MemberFlaw.passing : MemberFlaw → Fault
  | .dangling rest => .peek .keyNotString rest
  | .missing => ⟨.objectEnds, 0⟩
  | flaw => flaw.fault

namespace Draft

/-- The text from the first character of the value on. -/
def start : Draft → List Char
  | .absent start _ | .null start _ | .boolean start _ _ | .number start _ _
  | .string start _ _ | .malformed start _ _ | .misquoted start _ _ | .array start _ _
  | .object start _ _ => start

/-- The text after the value, for a reader that passes over it. -/
def ending : Draft → Except Fault (List Char)
  | .absent _ fault => .error fault
  | .null _ after | .boolean _ _ after | .number _ _ after | .string _ _ after => .ok after
  | .malformed _ _ ending | .misquoted _ _ ending | .array _ _ ending
  | .object _ _ ending => ending

end Draft

/-- The text after an array, for a reader that passes over it. -/
def Items.ending : Items → Except Fault (List Char)
  | .close after => .ok after
  | .item value rest =>
    match value.ending with
    | .ok _ => rest.ending
    | .error fault => .error fault
  | .stop flaw => .error flaw.passing

/-- The text after an object, for a reader that passes over it. -/
def Members.ending : Members → Except Fault (List Char)
  | .close after => .ok after
  | .member _ _ value rest =>
    match value.ending with
    | .ok _ => rest.ending
    | .error fault => .error fault
  | .unquoted found => .error (.peek .keyNotString found.start)
  | .stop flaw => .error flaw.passing

namespace Draft

/-! ## Scalars -/

/-- What follows the first letter of a literal: the remaining letters, or a fault. -/
def literal (start : List Char) (found : List Char → Draft) : List Char → List Char → Draft
  | [], cs => found cs
  | _ :: _, [] => .malformed start ⟨.valueEnds, 0⟩ (.error ⟨.valueEnds, 0⟩)
  | letter :: word, c :: cs =>
    if c == letter then literal start found word cs
    else
      let fault := Fault.peek .identExpected (c :: cs)
      .malformed start fault (.error fault)

/-- A number. A missing digit is an end of the text only to those who need the value. -/
def ofNumeral (start : List Char) : Draft :=
  match Numeral.read start with
  | .ok (numeral, rest) =>
    match numeral.value? with
    | some value => .number start value rest
    | none => .malformed start (.before .numberOutOfRange (numeral.unread ++ rest)) (.ok rest)
  | .error rest =>
    .malformed start
      (.peek (if rest.isEmpty then .valueEnds else .invalidNumber) rest)
      (.error (.peek .invalidNumber rest))

/-- A string, with the text after its opening quote. -/
def ofQuoted (start body : List Char) : Draft :=
  match unquote body with
  | .ok (cs, rest) => .string start (String.ofList cs) rest
  | .error fault => .misquoted start fault (pass body)

/-! ## Containers -/

mutual

/-- The value at the front of a text. The first argument bounds the number of steps. -/
def read : Nat → List Char → Draft
  | 0, cs => .absent cs (.before .valueEnds cs)
  | steps + 1, cs =>
    let start := skipSpace cs
    match start with
    | [] => .absent [] ⟨.valueEnds, 0⟩
    | 'n' :: rest => literal start (.null start) ['u', 'l', 'l'] rest
    | 't' :: rest => literal start (.boolean start true) ['r', 'u', 'e'] rest
    | 'f' :: rest => literal start (.boolean start false) ['a', 'l', 's', 'e'] rest
    | '"' :: rest => ofQuoted start rest
    | '[' :: rest =>
      let items := readItems steps true rest
      .array start items items.ending
    | '\x7b' :: rest =>
      let members := readMembers steps true rest
      .object start members members.ending
    | c :: _ =>
      if c == '-' || isDigit c then ofNumeral start
      else .absent start (.peek .valueExpected start)

/-- The items from a text on; `first` tells that none has been read yet. -/
def readItems : Nat → (first : Bool) → List Char → Items
  | 0, _, _ => .stop .ends
  | steps + 1, first, cs =>
    match skipSpace cs with
    | [] => .stop .ends
    | ']' :: rest => .close rest
    | c :: rest =>
      if first then
        let value := read steps (c :: rest)
        .item value (followItems steps value.ending)
      else if c == ',' then
        match skipSpace rest with
        | ']' :: rest => .stop (.dangling (']' :: rest))
        | rest =>
          let value := read steps rest
          .item value (followItems steps value.ending)
      else .stop (.unseparated (c :: rest))

/-- The items after one that ends as given. -/
def followItems : Nat → Except Fault (List Char) → Items
  | 0, _ => .stop .ends
  | _ + 1, .error fault => .stop (.endless fault)
  | steps + 1, .ok rest => readItems steps false rest

/-- The members from a text on; `first` tells that none has been read yet. -/
def readMembers : Nat → (first : Bool) → List Char → Members
  | 0, _, _ => .stop .ends
  | steps + 1, first, cs =>
    match skipSpace cs with
    | [] => .stop .ends
    | '\x7d' :: rest => .close rest
    | c :: rest =>
      if first then readMember steps (c :: rest)
      else if c == ',' then
        match skipSpace rest with
        | [] => .stop .missing
        | '\x7d' :: rest => .stop (.dangling ('\x7d' :: rest))
        | rest => readMember steps rest
      else .stop (.unseparated (c :: rest))

def readMember : Nat → List Char → Members
  | 0, _ => .stop .ends
  | steps + 1, '"' :: body =>
    let key := (unquote body).map fun (cs, _) => String.ofList cs
    match pass body with
    | .error fault => .member key [] (.absent [] fault) (.stop (.endless fault))
    | .ok after =>
      match skipSpace after with
      | ':' :: rest =>
        let value := read steps rest
        .member key (':' :: rest) value (followMembers steps value.ending)
      | [] =>
        let fault : Fault := ⟨.objectEnds, 0⟩
        .member key [] (.absent [] fault) (.stop (.endless fault))
      | colon =>
        let fault := Fault.peek .colonExpected colon
        .member key colon (.absent colon fault) (.stop (.endless fault))
  | steps + 1, cs => .unquoted (read steps cs)

/-- The members after one that ends as given. -/
def followMembers : Nat → Except Fault (List Char) → Members
  | 0, _ => .stop .ends
  | _ + 1, .error fault => .stop (.endless fault)
  | steps + 1, .ok rest => readMembers steps false rest

end

/-- The draft of a text. No character takes more than four steps. -/
def ofText (text : List Char) : Draft :=
  read (4 * (text.length + 1)) text

end Draft

end Scratchpad.Json
