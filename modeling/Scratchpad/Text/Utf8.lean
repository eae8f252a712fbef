/-!
# UTF-8

Byte strings are cut into *pieces*: well-formed scalar values, maximal ill-formed
subparts, and a sequence that the end of the bytes cuts short. Strict decoding
reports the first piece that is not a scalar value; lossy decoding replaces each
such piece by one replacement character. Both read the same pieces, so they agree
on every well-formed byte string.
-/

set_option autoImplicit false

namespace Scratchpad.Text.Utf8

def encode (cs : List Char) : List UInt8 :=
  cs.flatMap String.utf8EncodeChar

/-- One unit of a byte string. -/
inductive Piece where
  | scalar (c : Char)
  | invalid (size : Nat)
  | truncated (size : Nat)
  deriving DecidableEq, Repr

/-- A sequence that has begun: the bits and bytes read so far, the range of the next
byte, and how many further continuation bytes come after it. -/
structure Opened where
  bits : Nat
  read : Nat
  low : UInt8
  high : UInt8
  further : Nat
  deriving DecidableEq, Repr

/-- The sequence that a lead byte opens. Overlong forms, surrogates and values above
U+10FFFF are already excluded by the range of the second byte. -/
def open? (byte : UInt8) : Option Opened :=
  if 0xC2 ≤ byte && byte ≤ 0xDF then some ⟨byte.toNat % 32, 1, 0x80, 0xBF, 0⟩
  else if byte == 0xE0 then some ⟨byte.toNat % 16, 1, 0xA0, 0xBF, 1⟩
  else if byte == 0xED then some ⟨byte.toNat % 16, 1, 0x80, 0x9F, 1⟩
  else if 0xE1 ≤ byte && byte ≤ 0xEF then some ⟨byte.toNat % 16, 1, 0x80, 0xBF, 1⟩
  else if byte == 0xF0 then some ⟨byte.toNat % 8, 1, 0x90, 0xBF, 2⟩
  else if 0xF1 ≤ byte && byte ≤ 0xF3 then some ⟨byte.toNat % 8, 1, 0x80, 0xBF, 2⟩
  else if byte == 0xF4 then some ⟨byte.toNat % 8, 1, 0x80, 0x8F, 2⟩
  else none

/-- The value after one more continuation byte. -/
def Opened.extend (sequence : Opened) (byte : UInt8) : Nat :=
  sequence.bits * 64 + byte.toNat % 64

/-- What a byte does where no sequence is open: it is a piece by itself, or it opens a
sequence. -/
def first (byte : UInt8) : Piece ⊕ Opened :=
  if byte < 0x80 then .inl (.scalar (Char.ofNat byte.toNat))
  else match open? byte with
    | some sequence => .inr sequence
    | none => .inl (.invalid 1)

/-- Cut the bytes that follow an optional open sequence. A byte that cannot continue the
sequence ends it, and is then read afresh. -/
def piecesFrom : Option Opened → List UInt8 → List Piece
  | none, [] => []
  | some sequence, [] => [.truncated sequence.read]
  | none, byte :: rest =>
    match first byte with
    | .inl piece => piece :: piecesFrom none rest
    | .inr sequence => piecesFrom (some sequence) rest
  | some sequence, byte :: rest =>
    if sequence.low ≤ byte && byte ≤ sequence.high then
      match sequence.further with
      | 0 => .scalar (Char.ofNat (sequence.extend byte)) :: piecesFrom none rest
      | further + 1 =>
        piecesFrom (some ⟨sequence.extend byte, sequence.read + 1, 0x80, 0xBF, further⟩) rest
    else
      .invalid sequence.read ::
        match first byte with
        | .inl piece => piece :: piecesFrom none rest
        | .inr again => piecesFrom (some again) rest

def pieces (bytes : List UInt8) : List Piece :=
  piecesFrom none bytes

inductive Malformed where
  /-- A sequence that no further byte could complete. -/
  | invalid (size index : Nat)
  /-- The bytes end inside a sequence. -/
  | incomplete (index : Nat)
  deriving DecidableEq, Repr

/-- Report text, with the byte index at which the trouble starts. -/
def Malformed.message : Malformed → String
  | .invalid size index =>
    "invalid utf-8 sequence of " ++ toString size ++ " bytes from index " ++ toString index
  | .incomplete index => "incomplete utf-8 byte sequence from index " ++ toString index

/-- Read pieces as characters; `index` is the offset of the first one. -/
def scalars (index : Nat) : List Piece → Except Malformed (List Char)
  | [] => .ok []
  | .scalar c :: rest => do
    let cs ← scalars (index + c.utf8Size) rest
    return c :: cs
  | .invalid size :: _ => .error (.invalid size index)
  | .truncated _ :: _ => .error (.incomplete index)

/-- Strict decoding. -/
def decode (bytes : List UInt8) : Except Malformed (List Char) :=
  scalars 0 (pieces bytes)

/-- U+FFFD, which stands for whatever cannot be decoded. -/
def replacement : Char := '\uFFFD'

/-- Lossy decoding: each ill-formed piece becomes one replacement character. -/
def lossy (bytes : List UInt8) : List Char :=
  (pieces bytes).map fun
    | .scalar c => c
    | _ => replacement

def size (cs : List Char) : Nat :=
  cs.foldr (fun c total => c.utf8Size + total) 0

theorem size_append (cs others : List Char) : size (cs ++ others) = size cs + size others := by
  induction cs with
  | nil => simp [size]
  | cons c cs ih =>
    simp only [size, List.cons_append, List.foldr_cons] at ih ⊢
    omega

end Scratchpad.Text.Utf8
