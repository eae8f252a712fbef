import Scratchpad.Text.Quoted
import Scratchpad.Url.Ipv4

/-!
# IPv6 addresses

An address is eight pieces of 16 bits. It is written with the first of its longest runs of
zero pieces left out, if that run is longer than one piece. The last two pieces may be read
from an IPv4 address in its strict form.
-/

set_option autoImplicit false

namespace Scratchpad.Url.Ipv6

/-! ## Reading -/

/-- A piece: one to four hexadecimal digits. -/
def piece? (cs : List Char) : Option Nat :=
  if cs.isEmpty || 4 < cs.length then none else Ipv4.digits? 16 cs

/-- A byte of an embedded IPv4 address: a decimal number without leading zeros. -/
def byte? (cs : List Char) : Option Nat := do
  if cs.isEmpty || 3 < cs.length then none
  if 1 < cs.length && cs.head? == some '0' then none
  let n ← Ipv4.digits? 10 cs
  if 255 < n then none else some n

/-- The two pieces of an embedded IPv4 address. -/
def embedded? (cs : List Char) : Option (List Nat) := do
  match ← (Text.split (· == '.') cs).mapM byte? with
  | [a, b, c, d] => some [a * 256 + b, c * 256 + d]
  | _ => none

/-- The pieces between colons; only the very last group may be an IPv4 address. -/
def pieces? (final : Bool) : List (List Char) → Option (List Nat)
  | [] => some []
  | [last] =>
    if final && last.contains '.' then embedded? last else (piece? last).map ([·])
  | group :: groups => do
    let piece ← piece? group
    let rest ← pieces? final groups
    return piece :: rest

/-- The pieces of one side of an address, which may be empty. -/
def side? (final : Bool) (cs : List Char) : Option (List Nat) :=
  if cs.isEmpty then some [] else pieces? final (Text.split (· == ':') cs)

def cut? : List Char → Option (List Char × List Char)
  | [] => none
  | ':' :: ':' :: rest => some ([], rest)
  | c :: rest => (cut? rest).map fun (left, right) => (c :: left, right)

/-- The address that a text is. A double colon stands for at least one zero piece. -/
def parse? (cs : List Char) : Option (List Nat) :=
  match cut? cs with
  | some (left, right) => do
    let before ← side? false left
    let after ← side? true right
    let given := before.length + after.length
    if 7 < given then none
    else some (before ++ List.replicate (8 - given) 0 ++ after)
  | none => do
    let all ← pieces? true (Text.split (· == ':') cs)
    if all.length == 8 then some all else none

/-! ## Writing -/

def zeros (pieces : List Nat) : Nat :=
  (pieces.takeWhile (· == 0)).length

/-- Start and length of the first longest run of zero pieces. -/
def longestRun : (index : Nat) → List Nat → Nat × Nat
  | _, [] => (0, 0)
  | index, piece :: pieces =>
    let here := zeros (piece :: pieces)
    let later := longestRun (index + 1) pieces
    if later.2 ≤ here then (index, here) else later

def renderPieces (pieces : List Nat) : List Char :=
  Text.join [':'] (pieces.map Text.hexDigits)

def render (pieces : List Nat) : List Char :=
  let (start, length) := longestRun 0 pieces
  let body :=
    if length < 2 then renderPieces pieces
    else renderPieces (pieces.take start) ++ [':', ':'] ++
      renderPieces (pieces.drop (start + length))
  '[' :: body ++ [']']

end Scratchpad.Url.Ipv6
