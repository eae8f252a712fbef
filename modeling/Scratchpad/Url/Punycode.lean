/-!
# Punycode

A text outside ASCII in ASCII. Its characters inside ASCII come first, and then, as a sequence of
numbers, the others: each number says how far on the next character is, counting first through
the places at which it could be inserted and then through the code points. A number is written
with digits in base 36, the least one first; a digit below a threshold ends it, and the
thresholds follow the size of the numbers written so far.
-/

set_option autoImplicit false

namespace Scratchpad.Url.Punycode

/-! ## Digits -/

/-- The digits: letters, and then the decimal digits. -/
def digit (value : Nat) : Char :=
  if value < 26 then Char.ofNat ('a'.toNat + value) else Char.ofNat ('0'.toNat + (value - 26))

def digitValue? (c : Char) : Option Nat :=
  if 'a' ≤ c && c ≤ 'z' then some (c.toNat - 'a'.toNat)
  else if '0' ≤ c && c ≤ '9' then some (c.toNat - '0'.toNat + 26)
  else none

/-- The least value that does not end a number at a place, between 1 and 26. -/
def threshold (place bias : Nat) : Nat :=
  max 1 (min 26 (place - bias))

/-- The digits of a number. Each step takes off one digit and makes the rest smaller. -/
def digits (bias : Nat) : (steps place value : Nat) → List Char
  | 0, _, _ => []
  | steps + 1, place, value =>
    let t := threshold place bias
    if value < t then [digit value]
    else digit (t + (value - t) % (36 - t)) ::
      digits bias steps (place + 36) ((value - t) / (36 - t))

/-- Read a number from the front of a text and add it to `sum`. -/
def readNumber (bias : Nat) : (place weight sum : Nat) → List Char → Option (Nat × List Char)
  | _, _, _, [] => none
  | place, weight, sum, c :: rest =>
    match digitValue? c with
    | none => none
    | some value =>
      let t := threshold place bias
      if value < t then some (sum + value * weight, rest)
      else readNumber bias (place + 36) (weight * (36 - t)) (sum + value * weight) rest

/-! ## The bias -/

/-- Scale a number down to the range of the bias. -/
def scale : (steps delta place : Nat) → Nat
  | 0, _, place => place
  | steps + 1, delta, place =>
    if 455 < delta then scale steps (delta / 35) (place + 36)
    else place + 36 * delta / (delta + 38)

/-- The bias after a number, when a text of `points` characters has been reached. -/
def adapt (delta points : Nat) (first : Bool) : Nat :=
  let delta := if first then delta / 700 else delta / 2
  let delta := delta + delta / points
  scale (delta + 1) delta 0

def initialBias : Nat := 72

def initialCode : Nat := 0x80

/-! ## Encoding -/

/-- A text while it is encoded. -/
structure Progress where
  output : List Char
  delta : Nat
  bias : Nat
  done : Nat
  deriving DecidableEq, Repr

/-- Pass one character of the text while its characters with the code point `next` are
encoded. -/
def pass (basic next : Nat) (progress : Progress) (c : Char) : Progress :=
  if c.toNat < next then { progress with delta := progress.delta + 1 }
  else if c.toNat == next then
    { output := progress.output ++ digits progress.bias (progress.delta + 1) 36 progress.delta
      delta := 0
      bias := adapt progress.delta (progress.done + 1) (progress.done == basic)
      done := progress.done + 1 }
  else progress

/-- Encode the code points from `next` on, in increasing order. -/
def encodeFrom (text : List Char) (basic : Nat) : List Nat → Nat → Progress → Progress
  | [], _, progress => progress
  | code :: codes, next, progress =>
    let delta := progress.delta + (code - next) * (progress.done + 1)
    let after := text.foldl (pass basic code) { progress with delta }
    encodeFrom text basic codes (code + 1) { after with delta := after.delta + 1 }

def encode (text : List Char) : List Char :=
  let basic := text.filter (·.toNat < initialCode)
  let codes := ((text.filter (initialCode ≤ ·.toNat)).map Char.toNat).eraseDups.mergeSort (· ≤ ·)
  let encoded := encodeFrom text basic.length codes initialCode
    ⟨[], 0, initialBias, basic.length⟩
  basic ++ (if basic.isEmpty then [] else ['-']) ++ encoded.output

/-! ## Decoding -/

def isCharacter (code : Nat) : Bool :=
  code < 0xD800 || (0xDFFF < code && code < 0x110000)

/-- Insert the characters that numbers stand for. `code` and `place` are where the last one was
inserted. Each step reads one number, so there are no more steps than characters to read. -/
def decodeFrom : (steps code place bias : Nat) → (output numbers : List Char) →
    Option (List Char)
  | _, _, _, _, output, [] => some output
  | 0, _, _, _, _, _ :: _ => none
  | steps + 1, code, place, bias, output, c :: cs =>
    match readNumber bias 36 1 place (c :: cs) with
    | none => none
    | some (sum, rest) =>
      let points := output.length + 1
      let next := code + sum / points
      if isCharacter next then
        decodeFrom steps next (sum % points + 1) (adapt (sum - place) points (place == 0))
          (output.insertIdx (sum % points) (Char.ofNat next)) rest
      else none

/-- The text that a text in ASCII stands for. The last hyphen ends what stands for itself. -/
def decode? (encoded : List Char) : Option (List Char) :=
  let numbers := (encoded.reverse.takeWhile (· != '-')).reverse
  let basic := encoded.take (encoded.length - numbers.length - 1)
  if basic.isEmpty then decodeFrom encoded.length initialCode 0 initialBias [] encoded
  else decodeFrom numbers.length initialCode 0 initialBias basic numbers

end Scratchpad.Url.Punycode
