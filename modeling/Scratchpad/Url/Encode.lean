import Scratchpad.Json.Quote
import Scratchpad.Text.Utf8

/-!
# Percent-encoding

A character that may not stand for itself is written as the bytes of its UTF-8 form, each as
a percent sign and two upper-case hexadecimal digits. Which characters those are depends on
the place in the URL; characters outside ASCII never stand for themselves.
-/

set_option autoImplicit false

namespace Scratchpad.Url

def upperHexDigit (n : Nat) : Char :=
  if n < 10 then Char.ofNat ('0'.toNat + n) else Char.ofNat ('A'.toNat + (n - 10))

def encodeByte (byte : UInt8) : List Char :=
  ['%', upperHexDigit (byte.toNat / 16), upperHexDigit (byte.toNat % 16)]

/-- Encode the characters of a set, and all characters outside ASCII. -/
def percentEncode (set : Char → Bool) (cs : List Char) : List Char :=
  cs.flatMap fun c =>
    if set c || 0x7F < c.toNat then (String.utf8EncodeChar c).flatMap encodeByte else [c]

/-- The bytes of a text, with encoded bytes decoded. A percent sign without two hexadecimal
digits after it stands for itself. -/
def percentDecode : List Char → List UInt8
  | [] => []
  | '%' :: a :: b :: rest =>
    match Json.hexValue? a, Json.hexValue? b with
    | some high, some low => (high * 16 + low).toUInt8 :: percentDecode rest
    | _, _ => 0x25 :: percentDecode (a :: b :: rest)
  | c :: rest => String.utf8EncodeChar c ++ percentDecode rest

/-! ## Sets -/

def controls (c : Char) : Bool :=
  c.toNat < 0x20 || c.toNat == 0x7F

def querySet (c : Char) : Bool :=
  controls c || [' ', '"', '#', '<', '>'].contains c

def specialQuerySet (c : Char) : Bool :=
  querySet c || c == '\''

def fragmentSet (c : Char) : Bool :=
  controls c || [' ', '"', '<', '>', '`'].contains c

def pathSet (c : Char) : Bool :=
  fragmentSet c || ['#', '?', '\x7b', '\x7d'].contains c

def userinfoSet (c : Char) : Bool :=
  pathSet c || ['/', ':', ';', '=', '@', '[', '\\', ']', '^', '|'].contains c

end Scratchpad.Url
