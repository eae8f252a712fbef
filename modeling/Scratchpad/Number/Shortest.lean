import Scratchpad.Number.Binary64

/-!
# Shortest decimal text

The fewest decimal digits that read back as a given binary value, and of those the
nearest to it. For each number of digits the two neighbours of the value on that
decimal grid are tested, in exact arithmetic, against the interval of numbers that
round to the value; the ends belong to the interval when the significand is even.
-/

set_option autoImplicit false

namespace Scratchpad

/-- A decimal number `digits * 10 ^ exponent`. -/
structure Decimal where
  digits : Nat
  exponent : Int
  deriving DecidableEq, Repr, Inhabited

namespace Binary64

/-- Order of `digits * 10 ^ exponent` and `quarters * 2 ^ (x.exponent - 2)`, the unit in which
the ends of the rounding interval are whole numbers. -/
def compareDecimal (x : Binary64) (decimal : Decimal) (quarters : Nat) : Ordering :=
  let unit := powerOfTwo (x.exponent - 2)
  let up := Nat.pow 10 decimal.exponent.toNat
  let down := Nat.pow 10 (-decimal.exponent).toNat
  compare (decimal.digits * up * unit.2) (quarters * unit.1 * down)

/-- A decimal that rounds to the value. -/
def readsBack (x : Binary64) (decimal : Decimal) : Bool :=
  let narrow := x.significand == 0x10000000000000 && leastExponent < x.exponent
  let low := compareDecimal x decimal (4 * x.significand - if narrow then 1 else 2)
  let high := compareDecimal x decimal (4 * x.significand + 2)
  let closed := x.significand % 2 == 0
  (low == .gt || (closed && low == .eq)) && (high == .lt || (closed && high == .eq))

/-- The decimal exponent of the leading digit of a positive value. -/
def decimalExponent (x : Binary64) : Int :=
  let q := x.toQuotient
  if q.2 ≤ q.1 then Int.ofNat ((Nat.toDigits 10 (q.1 / q.2)).length - 1)
  else
    match (List.range 400).find? fun j => q.2 ≤ q.1 * Nat.pow 10 j with
    | some j => -Int.ofNat j
    | none => 0

/-- The value's neighbour below it among the multiples of `10 ^ exponent`. -/
def decimalBelow (x : Binary64) (exponent : Int) : Decimal :=
  let q := x.toQuotient
  ⟨q.1 * Nat.pow 10 (-exponent).toNat / (q.2 * Nat.pow 10 exponent.toNat), exponent⟩

/-- Of the two neighbours on a decimal grid, the nearest one that reads back. A tie goes to the
even digit. -/
def onGrid? (x : Binary64) (exponent : Int) : Option Decimal :=
  let below := x.decimalBelow exponent
  let above : Decimal := ⟨below.digits + 1, exponent⟩
  match x.readsBack below, x.readsBack above with
  | true, true =>
    let middle : Decimal := ⟨2 * below.digits + 1, exponent⟩
    match x.compareDecimal middle (8 * x.significand) with
    | .gt => some below
    | .lt => some above
    | .eq => some (if below.digits % 2 == 0 then below else above)
  | true, false => some below
  | false, true => some above
  | false, false => none

/-- The shortest decimal of a positive value. Seventeen digits always suffice. -/
def shortest (x : Binary64) : Decimal :=
  let leading := x.decimalExponent
  match (List.range 17).findSome? fun more => x.onGrid? (leading - Int.ofNat more) with
  | some decimal => decimal
  | none => x.decimalBelow (leading - 16)

end Binary64

/-- How a floating-point number is written: positionally when its leading digit has a decimal
exponent in `[fixedFrom, fixedBelow)`, otherwise with an exponent that has a sign and at least
`exponentDigits` digits. -/
structure FloatFormat where
  fixedFrom : Int
  fixedBelow : Int
  exponentDigits : Nat
  deriving DecidableEq, Repr

namespace FloatFormat

def padLeft (width : Nat) (digits : List Char) : List Char :=
  List.replicate (width - digits.length) '0' ++ digits

def significant (digits : Nat) : List Char :=
  ((Nat.toDigits 10 digits).reverse.dropWhile (· == '0')).reverse

/-- Text of a non-negative value. A positional text always has a fraction, so that it cannot be
taken for an integer. -/
def text (format : FloatFormat) (x : Binary64) : List Char :=
  if x.isZero then ['0', '.', '0']
  else
    let decimal := x.shortest
    let all := Nat.toDigits 10 decimal.digits
    let digits := significant decimal.digits
    let leading := decimal.exponent + Int.ofNat (all.length - 1)
    if format.fixedFrom ≤ leading && leading < format.fixedBelow then
      if leading < 0 then
        '0' :: '.' :: List.replicate (-leading - 1).toNat '0' ++ digits
      else
        let whole := leading.toNat + 1
        let fraction := digits.drop whole
        digits.take whole ++ List.replicate (whole - digits.length) '0' ++
          '.' :: (if fraction.isEmpty then ['0'] else fraction)
    else
      let mantissa := match digits with
        | [] => ['0']
        | [d] => [d]
        | d :: more => d :: '.' :: more
      mantissa ++ 'e' :: (if leading < 0 then '-' else '+') ::
        padLeft format.exponentDigits (Nat.toDigits 10 leading.natAbs)

end FloatFormat

end Scratchpad
