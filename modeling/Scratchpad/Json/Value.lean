import Scratchpad.Json.Quote

/-!
# JSON values

Values with the members of an object in their written order, and the compact form of a
value: no blanks, and members as they stand.
-/

set_option autoImplicit false

namespace Scratchpad.Json

inductive Value where
  | null
  | boolean (value : Bool)
  | number (value : Number)
  | string (value : String)
  | array (items : List Value)
  | object (members : List (String × Value))
  deriving Repr

namespace Value

def ofText? : Option String → Value
  | some text => .string text
  | none => .null

def ofNat (n : Nat) : Value :=
  .number (.natural n)

mutual

def render : Value → List Char
  | .null => ['n', 'u', 'l', 'l']
  | .boolean true => ['t', 'r', 'u', 'e']
  | .boolean false => ['f', 'a', 'l', 's', 'e']
  | .number n => n.render
  | .string text => quote text
  | .array items => '[' :: renderItems items
  | .object members => '\x7b' :: renderMembers members

def renderItems : List Value → List Char
  | [] => [']']
  | [item] => item.render ++ [']']
  | item :: rest => item.render ++ ',' :: renderItems rest

def renderMembers : List (String × Value) → List Char
  | [] => ['\x7d']
  | [(key, value)] => quote key ++ ':' :: (value.render ++ ['\x7d'])
  | (key, value) :: rest => quote key ++ ':' :: (value.render ++ ',' :: renderMembers rest)

end

def compact (value : Value) : String :=
  String.ofList value.render

/-- What a value is called where something else was wanted. -/
def found : Value → Found
  | .null => .null
  | .boolean value => .boolean value
  | .number value => .number value
  | .string value => .text value
  | .array _ => .sequence
  | .object _ => .map

end Value

end Scratchpad.Json
