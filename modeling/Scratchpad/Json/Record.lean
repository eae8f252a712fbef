import Scratchpad.Json.Read

/-!
# Readers of records and choices

A record is written as an object, with its fields in any order among other members, or as an
array of its fields in their order. A choice between names is written as the name, or as an
object whose one member has that name and is null.

While a record is read its fields are held in a form in which each may still be missing; the
`Shape` of the record says how a field gets there and what to make of the form at the end.
-/

set_option autoImplicit false

namespace Scratchpad.Json

/-! ## Members in order -/

/-- Take the members one by one into a state; the text after the object comes with it. -/
def Members.fold {σ : Type} (step : σ → String → List Char → Draft → Except Fault σ)
    (state : σ) : Members → Except Fault (σ × List Char)
  | .close after => .ok (state, after)
  | .member key colon value rest => do
    let key ← key
    let next ← step state key colon value
    rest.fold step next
  | .unquoted found => .error (.peek .keyNotString found.start)
  | .stop flaw => .error flaw.fault

/-- The end of an array whose items are all read already. -/
def Items.finish : Items → Except Fault Unit
  | .close _ => .ok ()
  | .item value _ => .error (.peek .trailingCharacters value.start)
  | .stop (.unseparated rest) => .error (.peek .trailingCharacters rest)
  | .stop flaw => .error flaw.fault

/-! ## Records -/

/-- Whether a field may be left out. A `nullable` field may be left out of an object only. -/
inductive Need where
  | required
  | nullable
  | defaulted
  deriving DecidableEq, Repr

/-- A field of a record, in terms of the form that is being filled. -/
structure Field (σ : Type) where
  name : String
  need : Need
  held : σ → Bool
  fill : σ → Draft → Except Fault σ

/-- A field whose value is kept in an optional part of the form. -/
def Field.of {σ α : Type} (name : String) (need : Need) (part : σ → Option α)
    (put : σ → α → σ) (read : Draft → Except Fault α) : Field σ where
  name := name
  need := need
  held form := (part form).isSome
  fill form draft := (read draft).map (put form)

structure Shape (σ α : Type) where
  name : String
  fields : List (Field σ)
  empty : σ
  finish : σ → Except Cause α

def required {α : Type} (name : String) : Option α → Except Cause α
  | some a => .ok a
  | none => .error (.missingField name)

/-- Fill fields from the items of an array, in order. Fields with a default may be left off
the end. -/
def Items.fill {σ : Type} (wanted : Wanted) (length : Nat) :
    List (Field σ) → σ → Items → Except Fault σ
  | [], form, items => items.finish.map fun _ => form
  | field :: fields, form, .item value rest => do
    let next ← field.fill form value
    rest.fill wanted (length + 1) fields next
  | field :: fields, form, .close after =>
    if field.need == .defaulted then Items.fill wanted length fields form (.close after)
    else .error (.before (.invalidLength length wanted) after)
  | _ :: _, _, .stop flaw => .error flaw.fault

namespace Shape

variable {σ α : Type}

/-- Take one member. A field is filled at most once; other members are passed over. -/
def member (shape : Shape σ α) (form : σ) (key : String) (colon : List Char)
    (value : Draft) : Except Fault σ :=
  match shape.fields.find? (·.name == key) with
  | some field =>
    if field.held form then .error (.before (.duplicateField key) colon)
    else field.fill form value
  | none => value.ending.map fun _ => form

/-- What the filled form is, given the text after it. -/
def close (shape : Shape σ α) (form : σ) (after : List Char) : Except Fault α :=
  match shape.finish form with
  | .ok a => .ok a
  | .error cause => .error (.before cause after)

def ofMembers (shape : Shape σ α) (members : Members) : Except Fault α := do
  let (form, after) ← members.fold shape.member shape.empty
  shape.close form after

def ofItems (shape : Shape σ α) (items : Items) : Except Fault α := do
  let wanted := Wanted.elements shape.name shape.fields.length
  let form ← items.fill wanted 0 shape.fields shape.empty
  shape.close form []

def read (shape : Shape σ α) : Draft → Except Fault α
  | .object _ members _ => shape.ofMembers members
  | .array _ items _ => shape.ofItems items
  | draft => .error (draft.refuse (.record shape.name))

end Shape

/-! ## Choices -/

/-- The meaning of a name among known ones, given the text after it. -/
def chosen {α : Type} (choices : List (String × α)) (name : String) (after : List Char) :
    Except Fault α :=
  match choices.find? (·.1 == name) with
  | some (_, a) => .ok a
  | none => .error (.before (.unknownVariant name (choices.map (·.1))) after)

/-- Read a choice that may only be written as a name. -/
def Draft.name {α : Type} (choices : List (String × α)) : Draft → Except Fault α
  | .string _ name after => chosen choices name after
  | draft => .error (draft.refuse .variant)

def Draft.choice {α : Type} (choices : List (String × α)) : Draft → Except Fault α
  | .string _ name after => chosen choices name after
  | .misquoted _ fault _ => .error fault
  | .absent _ fault => .error fault
  | .object _ (.member key colon value rest) _ => do
    let name ← key
    let a ← chosen choices name colon
    match value, rest with
    | .null _ _, .close _ => return a
    | .null _ _, .stop .ends => .error ⟨.objectEnds, 0⟩
    | .null _ after, _ => .error (.peek .valueExpected (skipSpace after))
    | value, _ => .error (value.refuse .unit)
  | .object _ (.unquoted found) _ => .error (.peek .keyNotString found.start)
  | .object _ (.close after) _ => .error (.before .valueExpected after)
  | .object _ (.stop flaw) _ => .error flaw.fault
  | draft => .error (.peek .valueExpected draft.start)

end Scratchpad.Json
