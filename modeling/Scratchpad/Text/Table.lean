import Scratchpad.Text.Split

/-!
# Tables of code points

Long tables are written as rows of text, in which spaces separate the items and numbers are
hexadecimal. An item of a set is a code point or a range, `41-5A`. An item of a mapping has, after
a sign, what its code points are mapped to: `C0=41,300` maps one to a sequence, `A0-A5=20` maps
all of a range to the same, and after `>` the first of a range is mapped to the number given, and
the others follow at the same distance. A slash in place of the dash takes every second code
point of the range.
-/

set_option autoImplicit false

namespace Scratchpad.Text.Table

/-- The value of a hexadecimal digit in upper case. -/
def digit (c : Char) : Nat :=
  if c ≤ '9' then c.toNat - '0'.toNat else c.toNat - 'A'.toNat + 10

def number (digits : List Char) : Nat :=
  digits.foldl (fun n c => n * 16 + digit c) 0

/-- What stands before and after the first of some characters. -/
def cut (marks : List Char) (item : List Char) : List Char × List Char :=
  (item.takeWhile (!marks.contains ·), (item.dropWhile (!marks.contains ·)).drop 1)

/-- The first and the last code point of an item. -/
def range (item : List Char) : Nat × Nat :=
  match cut ['-', '/'] item with
  | (first, []) => (number first, number first)
  | (first, last) => (number first, number last)

def items (rows : List String) : List (List Char) :=
  rows.flatMap fun row => (split (· == ' ') row.toList).filter (!·.isEmpty)

def ranges (rows : List String) : List (Nat × Nat) :=
  (items rows).map range

/-- An item of a mapping: what every `step`th code point from `first` to `last` is mapped to. -/
structure Rule where
  first : Nat
  last : Nat
  step : Nat
  target : List Nat
  /-- Whether the target moves on with the code point. -/
  moves : Bool
  deriving DecidableEq, Repr

def rule (item : List Char) : Rule :=
  let (codes, target) := cut ['=', '>'] item
  let (first, last) := range codes
  { first, last
    step := if codes.contains '/' then 2 else 1
    target := ((split (· == ',') target).filter (!·.isEmpty)).map number
    moves := item.contains '>' }

def rules (rows : List String) : List Rule :=
  (items rows).map rule

/-- What a code point is mapped to, if the rule is about it. -/
def Rule.image? (rule : Rule) (code : Nat) : Option (List Nat) :=
  if rule.first ≤ code && code ≤ rule.last && (code - rule.first) % rule.step == 0 then
    some (if rule.moves then rule.target.map (· + (code - rule.first)) else rule.target)
  else none

end Scratchpad.Text.Table
