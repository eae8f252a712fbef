/-!
# Binary floating point

Non-negative finite values of the 64-bit binary format as exact numbers
`significand * 2 ^ exponent`. Rounding to nearest, ties to even, is defined on exact
quotients, so products and quotients of two values are rounded once and need no
machine arithmetic.
-/

set_option autoImplicit false

namespace Scratchpad

/-- A finite non-negative value. Values produced by `Binary64.ofQuotient` have a
significand below `2 ^ 53` and an exponent between -1074 and 971, and a significand
below `2 ^ 52` only at the least exponent. -/
structure Binary64 where
  significand : Nat
  exponent : Int
  deriving DecidableEq, Repr, Inhabited

namespace Binary64

/-- The least exponent, that of the subnormal values. -/
def leastExponent : Int := -1074

/-- The greatest exponent of a finite value. -/
def greatestExponent : Int := 971

/-- `2 ^ e` as a quotient of natural numbers. -/
def powerOfTwo (e : Int) : Nat × Nat :=
  if 0 ≤ e then (Nat.pow 2 e.toNat, 1) else (1, Nat.pow 2 (-e).toNat)

/-- The nearest natural number to a quotient; a tie goes to the even neighbour. -/
def roundHalfEven (num den : Nat) : Nat :=
  let quotient := num / den
  let rest := num % den
  if den < 2 * rest || (2 * rest == den && quotient % 2 == 1) then quotient + 1 else quotient

/-- The exponent of the greatest power of two that does not exceed a positive quotient. -/
def floorLog2 (num den : Nat) : Int :=
  let estimate : Int := Int.ofNat num.log2 - Int.ofNat den.log2
  let power := powerOfTwo estimate
  if den * power.1 ≤ num * power.2 then estimate else estimate - 1

/-- The value nearest to a quotient, or nothing when it is beyond the greatest finite value. -/
def ofQuotient (num den : Nat) : Option Binary64 :=
  if num == 0 then some ⟨0, leastExponent⟩
  else
    let e := max leastExponent (floorLog2 num den - 52)
    let power := powerOfTwo e
    let rounded := roundHalfEven (num * power.2) (den * power.1)
    let value : Binary64 :=
      if rounded == 0x20000000000000 then ⟨0x10000000000000, e + 1⟩ else ⟨rounded, e⟩
    if value.exponent ≤ greatestExponent then some value else none

def toQuotient (x : Binary64) : Nat × Nat :=
  let power := powerOfTwo x.exponent
  (x.significand * power.1, power.2)

def ofNat (n : Nat) : Option Binary64 :=
  ofQuotient n 1

def mul (x y : Binary64) : Option Binary64 :=
  let a := x.toQuotient
  let b := y.toQuotient
  ofQuotient (a.1 * b.1) (a.2 * b.2)

/-- The rounded quotient; division by zero has no value. -/
def div (x y : Binary64) : Option Binary64 :=
  let a := x.toQuotient
  let b := y.toQuotient
  if b.1 == 0 then none else ofQuotient (a.1 * b.2) (a.2 * b.1)

def isZero (x : Binary64) : Bool :=
  x.significand == 0

end Binary64

end Scratchpad
