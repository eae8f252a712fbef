import Scratchpad.Json.Quote
import Scratchpad.Text.Split

/-!
# IPv4 addresses

An address is a number below `2 ^ 32`. It is written as four decimal numbers, and read from
up to four numbers, each decimal, octal or hexadecimal; the last number fills all the bytes
that are left.
-/

set_option autoImplicit false

namespace Scratchpad.Url.Ipv4

/-- The number that digits of a base stand for, if they are all digits of that base. -/
def digits? (base : Nat) (cs : List Char) : Option Nat :=
  cs.foldlM (fun n c => do
    let d ← Json.hexValue? c
    if d < base then some (n * base + d) else none) 0

/-- One number of an address. A leading zero means octal, and `0x` hexadecimal; either may
have no digits after it. -/
def number? : List Char → Option Nat
  | [] => none
  | '0' :: 'x' :: rest | '0' :: 'X' :: rest => digits? 16 rest
  | '0' :: rest => digits? 8 rest
  | cs => digits? 10 cs

/-- The parts of a host between dots, without an empty one at the end. -/
def parts (host : List Char) : List (List Char) :=
  let all := Text.split (· == '.') host
  if all.getLast? == some [] then all.dropLast else all

/-- A host whose last part is a number is an address, or nothing. -/
def endsInNumber (host : List Char) : Bool :=
  match (parts host).getLast? with
  | some last =>
    !last.isEmpty && (last.all (fun c => '0' ≤ c && c ≤ '9') || (number? last).isSome)
  | none => false

/-- Bytes in front of a number, the first one most significant. -/
def combine (bytes : List Nat) (last : Nat) : Option Nat :=
  if Nat.pow 256 (4 - bytes.length) ≤ last || bytes.any (255 < ·) then none
  else some (bytes.foldl (fun n byte => n * 256 + byte) 0 * Nat.pow 256 (4 - bytes.length) + last)

def parse? (host : List Char) : Option Nat := do
  let numbers ← (parts host).mapM number?
  let last ← numbers.getLast?
  if 4 < numbers.length then none
  else combine numbers.dropLast last

def bytes (address : Nat) : List Nat :=
  [address / 0x1000000 % 256, address / 0x10000 % 256, address / 0x100 % 256, address % 256]

def render (address : Nat) : List Char :=
  Text.join ['.'] ((bytes address).map (Nat.toDigits 10))

end Scratchpad.Url.Ipv4
