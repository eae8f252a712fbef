import Scratchpad.Json.Number
import Scratchpad.Text.Quoted
import Scratchpad.Text.Utf8

/-!
# Faults of JSON texts

A fault is a cause and a place. Causes are of two kinds: the text is not JSON, or it is
JSON of another shape than the one wanted. The wording of every cause is in
`Cause.message`; a place is kept as the number of bytes still to be read, and turned into
a line and a column only when the fault is reported.
-/

set_option autoImplicit false

namespace Scratchpad.Json

/-- What stands where something else was wanted. -/
inductive Found where
  | null
  | boolean (value : Bool)
  | number (value : Number)
  | text (value : String)
  | sequence
  | map
  deriving DecidableEq, Repr

inductive Wanted where
  | text
  | boolean
  | sequence
  | unsigned
  | unit
  | record (name : String)
  | elements (name : String) (count : Nat)
  | tagged (name : String)
  | variant
  | variantIndex (count : Nat)
  deriving DecidableEq, Repr

/-- Why a text is not the JSON that was wanted. -/
inductive Cause where
  | valueEnds
  | stringEnds
  | listEnds
  | objectEnds
  | colonExpected
  | listCommaOrEndExpected
  | objectCommaOrEndExpected
  | identExpected
  | valueExpected
  | invalidEscape
  | invalidNumber
  | numberOutOfRange
  | controlCharacter
  | keyNotString
  | loneSurrogate
  | hexEscapeEnds
  | trailingComma
  | trailingCharacters
  | tooDeep
  | mismatch (found : Found) (wanted : Wanted)
  | invalidValue (found : Found) (wanted : Wanted)
  | invalidLength (length : Nat) (wanted : Wanted)
  | unknownVariant (name : String) (known : List String)
  | missingField (name : String)
  | duplicateField (name : String)
  deriving DecidableEq, Repr

def ticked (name : String) : String :=
  "`" ++ name ++ "`"

def Found.description : Found → String
  | .null => "null"
  | .boolean value => "boolean " ++ ticked (if value then "true" else "false")
  | .number (.real negative x) =>
    "floating point " ++ ticked (String.ofList (Number.render (.real negative x)))
  | .number n => "integer " ++ ticked (String.ofList n.render)
  | .text value => "string " ++ Text.quoted value
  | .sequence => "sequence"
  | .map => "map"

def Wanted.description : Wanted → String
  | .text => "a string"
  | .boolean => "a boolean"
  | .sequence => "a sequence"
  | .unsigned => "u64"
  | .unit => "unit"
  | .record name => "struct " ++ name
  | .elements name count => "struct " ++ name ++ " with " ++ toString count ++ " elements"
  | .tagged name => "adjacently tagged enum " ++ name
  | .variant => "variant identifier"
  | .variantIndex count => "variant index 0 <= i < " ++ toString count

/-- A choice of names: two are joined by "or", three and more are listed. -/
def oneOf : List String → String
  | [] => "there are no variants"
  | [a] => ticked a
  | [a, b] => ticked a ++ " or " ++ ticked b
  | names => "one of " ++ ", ".intercalate (names.map ticked)

def Cause.message : Cause → String
  | .valueEnds => "EOF while parsing a value"
  | .stringEnds => "EOF while parsing a string"
  | .listEnds => "EOF while parsing a list"
  | .objectEnds => "EOF while parsing an object"
  | .colonExpected => "expected `:`"
  | .listCommaOrEndExpected => "expected `,` or `]`"
  | .objectCommaOrEndExpected => "expected `,` or `\x7d`"
  | .identExpected => "expected ident"
  | .valueExpected => "expected value"
  | .invalidEscape => "invalid escape"
  | .invalidNumber => "invalid number"
  | .numberOutOfRange => "number out of range"
  | .controlCharacter =>
    "control character (\\u0000-\\u001F) found while parsing a string"
  | .keyNotString => "key must be a string"
  | .loneSurrogate => "lone leading surrogate in hex escape"
  | .hexEscapeEnds => "unexpected end of hex escape"
  | .trailingComma => "trailing comma"
  | .trailingCharacters => "trailing characters"
  | .tooDeep => "recursion limit exceeded"
  | .mismatch found wanted =>
    "invalid type: " ++ found.description ++ ", expected " ++ wanted.description
  | .invalidValue found wanted =>
    "invalid value: " ++ found.description ++ ", expected " ++ wanted.description
  | .invalidLength length wanted =>
    "invalid length " ++ toString length ++ ", expected " ++ wanted.description
  | .unknownVariant name known =>
    "unknown variant " ++ ticked name ++ ", expected " ++ oneOf known
  | .missingField name => "missing field " ++ ticked name
  | .duplicateField name => "duplicate field " ++ ticked name

/-- A cause, and the number of bytes that were still to be read where it arose. -/
structure Fault where
  cause : Cause
  left : Nat
  deriving DecidableEq, Repr

/-- A fault in front of `rest`. -/
def Fault.before (cause : Cause) (rest : List Char) : Fault :=
  ⟨cause, Text.Utf8.size rest⟩

/-- A fault at the first byte of `rest`, or at the end when nothing is left. -/
def Fault.peek (cause : Cause) (rest : List Char) : Fault :=
  ⟨cause, Text.Utf8.size rest - 1⟩

/-- Line and column, both in bytes, after the given bytes. -/
def place (bytes : List UInt8) : Nat × Nat :=
  ((bytes.filter (· == 10)).length + 1, (bytes.reverse.takeWhile (· != 10)).length)

def Fault.message (text : List Char) (fault : Fault) : String :=
  let bytes := Text.Utf8.encode text
  let (line, column) := place (bytes.take (bytes.length - fault.left))
  fault.cause.message ++ " at line " ++ toString line ++ " column " ++ toString column

end Scratchpad.Json
