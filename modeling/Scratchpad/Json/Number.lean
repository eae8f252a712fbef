import Scratchpad.Number.Shortest

/-!
# JSON numbers

A numeral is the written form of a number; a number is the value a reader takes from
it. Integers that fit 64 bits stay exact. Everything else becomes a binary
floating-point value, computed from a 64-bit significand and a power of ten by one
multiplication or division, so its last digit may differ from the nearest value.
-/

set_option autoImplicit false

namespace Scratchpad.Json

/-- The value of a numeral. A `natural` is below `2 ^ 64`, and `negative n` stands for `-n`
with `0 < n ≤ 2 ^ 63`. -/
inductive Number where
  | natural (n : Nat)
  | negative (n : Nat)
  | real (negative : Bool) (magnitude : Binary64)
  deriving DecidableEq, Repr

/-- Floating-point numbers are positional from 10⁻⁵ up to, not including, 10¹⁶, and exponents
are not padded. -/
def floatFormat : FloatFormat :=
  { fixedFrom := -5, fixedBelow := 16, exponentDigits := 1 }

def Number.render : Number → List Char
  | .natural n => Nat.toDigits 10 n
  | .negative n => '-' :: Nat.toDigits 10 n
  | .real false x => floatFormat.text x
  | .real true x => '-' :: floatFormat.text x

structure Numeral where
  negative : Bool
  whole : List Char
  fraction : Option (List Char)
  exponent : Option (Bool × List Char)
  deriving DecidableEq, Repr

def isDigit (c : Char) : Bool :=
  '0' ≤ c && c ≤ '9'

def digitValue (c : Char) : Nat :=
  c.toNat - '0'.toNat

namespace Numeral

/-- Cut the digits off the front; there must be at least one. The error is the text at which
the digit is missing. -/
def digits (cs : List Char) : Except (List Char) (List Char × List Char) :=
  if (cs.takeWhile isDigit).isEmpty then .error cs
  else .ok (cs.takeWhile isDigit, cs.dropWhile isDigit)

/-- The digits before the point: a zero, or digits that do not begin with one. -/
def wholePart : List Char → Except (List Char) (List Char × List Char)
  | '0' :: rest =>
    match rest with
    | c :: _ => if isDigit c then .error rest else .ok (['0'], rest)
    | [] => .ok (['0'], [])
  | cs => digits cs

def fractionPart : List Char → Except (List Char) (Option (List Char) × List Char)
  | '.' :: rest => do
    let (ds, rest) ← digits rest
    return (some ds, rest)
  | cs => .ok (none, cs)

/-- An optional sign of an exponent; true stands for minus. -/
def exponentSign : List Char → Bool × List Char
  | '+' :: rest => (false, rest)
  | '-' :: rest => (true, rest)
  | cs => (false, cs)

def exponentPart : List Char → Except (List Char) (Option (Bool × List Char) × List Char)
  | c :: rest =>
    if c == 'e' || c == 'E' then do
      let (negative, rest) := exponentSign rest
      let (ds, rest) ← digits rest
      return (some (negative, ds), rest)
    else .ok (none, c :: rest)
  | [] => .ok (none, [])

def read (cs : List Char) : Except (List Char) (Numeral × List Char) := do
  let (negative, rest) := match cs with
    | '-' :: rest => (true, rest)
    | cs => (false, cs)
  let (whole, rest) ← wholePart rest
  let (fraction, rest) ← fractionPart rest
  let (exponent, rest) ← exponentPart rest
  return (⟨negative, whole, fraction, exponent⟩, rest)

def greatestSignificand : Nat := 0xFFFFFFFFFFFFFFFF

/-- The greatest exponent that is still read digit by digit. -/
def greatestExponent : Nat := 0x7FFFFFFF

/-- Append digits to a significand up to the first one that would exceed `limit`; the digits
from there on are returned. -/
def absorb (limit : Nat) : Nat → List Char → Nat × List Char
  | n, [] => (n, [])
  | n, d :: rest =>
    let next := n * 10 + digitValue d
    if limit < next then (n, d :: rest) else absorb limit next rest

/-- Scale by a power of ten in one rounded step, or, for very small values, in steps of 308
places. Nothing when the value is beyond the finite range. -/
def scale : Nat → Binary64 → Int → Option Binary64
  | 0, x, _ => some x
  | fuel + 1, x, exponent =>
    if exponent.natAbs ≤ 308 then do
      let power ← Binary64.ofNat (Nat.pow 10 exponent.natAbs)
      if 0 ≤ exponent then x.mul power else x.div power
    else if x.isZero then some x
    else if 0 ≤ exponent then none
    else do
      let power ← Binary64.ofNat (Nat.pow 10 308)
      let smaller ← x.div power
      scale fuel smaller (exponent + 308)

/-- The magnitude `significand * 10 ^ exponent`. Three steps bring every value below the least
one to zero. -/
def magnitude (significand : Nat) (exponent : Int) : Option Binary64 := do
  let x ← Binary64.ofNat significand
  scale 4 x exponent

def real? (numeral : Numeral) : Option Number := do
  let (significand, skipped) := absorb greatestSignificand 0 numeral.whole
  let fraction := numeral.fraction.getD []
  let (significand, dropped) := absorb greatestSignificand significand fraction
  let start : Int := Int.ofNat skipped.length - Int.ofNat (fraction.length - dropped.length)
  match numeral.exponent with
  | none => return .real numeral.negative (← magnitude significand start)
  | some (down, ds) =>
    let (e, excess) := absorb greatestExponent 0 ds
    if excess.isEmpty then
      return .real numeral.negative
        (← magnitude significand (if down then start - Int.ofNat e else start + Int.ofNat e))
    else if significand != 0 && !down then none
    else return .real numeral.negative ⟨0, Binary64.leastExponent⟩

/-- The digits of the exponent that are not read any more once it has grown too great. -/
def unread (numeral : Numeral) : List Char :=
  match numeral.exponent with
  | some (_, ds) => (absorb greatestExponent 0 ds).2.drop 1
  | none => []

/-- The value of a numeral, or nothing when it is out of range. -/
def value? (numeral : Numeral) : Option Number :=
  match numeral.fraction, numeral.exponent with
  | none, none =>
    let (n, excess) := absorb greatestSignificand 0 numeral.whole
    if !excess.isEmpty then numeral.real?
    else if !numeral.negative then some (.natural n)
    else if 0 < n && n ≤ 0x8000000000000000 then some (.negative n)
    else numeral.real?
  | _, _ => numeral.real?

end Numeral

end Scratchpad.Json
