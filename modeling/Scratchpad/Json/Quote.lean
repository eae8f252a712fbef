import Scratchpad.Json.Fault

/-!
# JSON strings

Writing a text between quotes, and two readers for the characters after an opening quote.
`unquote` gives the text. `pass` only finds the closing quote: it looks at the same escapes,
but does not ask that surrogates come in pairs, so it accepts everything that `unquote`
accepts and a little more.
-/

set_option autoImplicit false

namespace Scratchpad.Json

/-! ## Writing -/

def fourHex (n : Nat) : List Char :=
  let digits := Text.hexDigits n
  List.replicate (4 - digits.length) '0' ++ digits

/-- One character inside a string. Only the quote, the backslash and the characters below
U+0020 are escaped. -/
def escape (c : Char) : List Char :=
  match c with
  | '"' => ['\\', '"']
  | '\\' => ['\\', '\\']
  | '\x08' => ['\\', 'b']
  | '\x0c' => ['\\', 'f']
  | '\n' => ['\\', 'n']
  | '\r' => ['\\', 'r']
  | '\t' => ['\\', 't']
  | c => if c.toNat < 0x20 then '\\' :: 'u' :: fourHex c.toNat else [c]

def quote (text : String) : List Char :=
  '"' :: (text.toList.flatMap escape ++ ['"'])

/-! ## Escapes -/

def hexValue? (c : Char) : Option Nat :=
  if '0' ≤ c && c ≤ '9' then some (c.toNat - '0'.toNat)
  else if 'a' ≤ c && c ≤ 'f' then some (c.toNat - 'a'.toNat + 10)
  else if 'A' ≤ c && c ≤ 'F' then some (c.toNat - 'A'.toNat + 10)
  else none

def hexUnit? (a b c d : Char) : Option Nat := do
  return (((← hexValue? a) * 16 + (← hexValue? b)) * 16 + (← hexValue? c)) * 16 + (← hexValue? d)

def shortEscape? : Char → Option Char
  | '"' => some '"'
  | '\\' => some '\\'
  | '/' => some '/'
  | 'b' => some '\x08'
  | 'f' => some '\x0c'
  | 'n' => some '\n'
  | 'r' => some '\r'
  | 't' => some '\t'
  | _ => none

/-- The fault of a hexadecimal escape with the given text after its letter: four bytes are
taken, or the string ends. -/
def hexFault (rest : List Char) : Fault :=
  if Text.Utf8.size rest < 4 then ⟨.stringEnds, 0⟩
  else ⟨.invalidEscape, Text.Utf8.size rest - 4⟩

/-- The units that only make sense in pairs: the first of a pair. -/
def isHighSurrogate (unit : Nat) : Bool :=
  0xD800 ≤ unit && unit ≤ 0xDBFF

/-- The second of a pair. -/
def isLowSurrogate (unit : Nat) : Bool :=
  0xDC00 ≤ unit && unit ≤ 0xDFFF

def surrogatePair (high low : Nat) : Char :=
  Char.ofNat ((high - 0xD800) * 0x400 + (low - 0xDC00) + 0x10000)

def prepend (c : Char) (read : Except Fault (List Char × List Char)) :
    Except Fault (List Char × List Char) :=
  read.map fun (cs, rest) => (c :: cs, rest)

/-! ## Reading -/

/-- The characters up to the closing quote, and the text after it. -/
def unquote : List Char → Except Fault (List Char × List Char)
  | [] => .error ⟨.stringEnds, 0⟩
  | '"' :: rest => .ok ([], rest)
  | '\\' :: [] => .error ⟨.stringEnds, 0⟩
  | '\\' :: 'u' :: a :: b :: c :: d :: rest =>
    match hexUnit? a b c d with
    | none => .error (hexFault (a :: b :: c :: d :: rest))
    | some unit =>
      if isLowSurrogate unit then .error (.before .loneSurrogate rest)
      else if isHighSurrogate unit then
        match rest with
        | '\\' :: 'u' :: e :: f :: g :: h :: rest' =>
          match hexUnit? e f g h with
          | none => .error (hexFault (e :: f :: g :: h :: rest'))
          | some second =>
            if isLowSurrogate second then prepend (surrogatePair unit second) (unquote rest')
            else .error (.before .loneSurrogate rest')
        | '\\' :: 'u' :: rest' => .error (hexFault rest')
        | '\\' :: [] => .error ⟨.stringEnds, 0⟩
        | '\\' :: rest' => .error (.peek .hexEscapeEnds rest')
        | [] => .error ⟨.stringEnds, 0⟩
        | rest' => .error (.peek .hexEscapeEnds rest')
      else prepend (Char.ofNat unit) (unquote rest)
  | '\\' :: 'u' :: rest => .error (hexFault rest)
  | '\\' :: c :: rest =>
    match shortEscape? c with
    | some c => prepend c (unquote rest)
    | none => .error (.peek .invalidEscape (c :: rest))
  | c :: rest =>
    if c.toNat < 0x20 then .error (.before .controlCharacter rest)
    else prepend c (unquote rest)

/-- The text after the closing quote. -/
def pass : List Char → Except Fault (List Char)
  | [] => .error ⟨.stringEnds, 0⟩
  | '"' :: rest => .ok rest
  | '\\' :: [] => .error ⟨.stringEnds, 0⟩
  | '\\' :: 'u' :: a :: b :: c :: d :: rest =>
    match hexUnit? a b c d with
    | none => .error (hexFault (a :: b :: c :: d :: rest))
    | some _ => pass rest
  | '\\' :: 'u' :: rest => .error (hexFault rest)
  | '\\' :: c :: rest =>
    match shortEscape? c with
    | some _ => pass rest
    | none => .error (.peek .invalidEscape (c :: rest))
  | c :: rest =>
    if c.toNat < 0x20 then .error (.before .controlCharacter (c :: rest))
    else pass rest

end Scratchpad.Json
