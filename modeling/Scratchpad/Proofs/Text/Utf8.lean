import Scratchpad.Text.Utf8

/-!
# Encoded text is read back

Every character is encoded as bytes that are cut into one piece, whatever follows them. So the
bytes of a text are cut into its characters, and both ways of decoding give them back. No other
bytes are decoded: a sequence that is complete is the encoding of its character.
-/

set_option autoImplicit false

namespace Scratchpad.Text

theorem toNat_ofNat_of_valid {n : Nat} (valid : n.isValidChar) : (Char.ofNat n).toNat = n := by
  rw [Char.ofNat, dif_pos valid]
  rfl

namespace Utf8

/-! ## Bytes that lead -/

theorem first_ascii {n : Nat} (ascii : n < 0x80) :
    first (UInt8.ofNat n) = .inl (.scalar (Char.ofNat n)) := by
  have all : ∀ n < 0x80, first (UInt8.ofNat n) = .inl (.scalar (Char.ofNat n)) := by decide
  exact all n ascii

theorem first_two {n : Nat} (least : 2 ≤ n) (most : n < 32) :
    first (UInt8.ofNat (n + 0xC0)) = .inr ⟨n, 1, 0x80, 0xBF, 0⟩ := by
  have all : ∀ n < 32, 2 ≤ n →
      first (UInt8.ofNat (n + 0xC0)) = .inr ⟨n, 1, 0x80, 0xBF, 0⟩ := by decide
  exact all n most least

/-- After the least of the bytes that lead three, values below U+0800 are excluded, and after
another one the surrogates are. -/
theorem first_three {n : Nat} (most : n < 16) :
    first (UInt8.ofNat (n + 0xE0)) =
      .inr ⟨n, 1, if n = 0 then 0xA0 else 0x80, if n = 13 then 0x9F else 0xBF, 1⟩ := by
  have all : ∀ n < 16, first (UInt8.ofNat (n + 0xE0)) =
      .inr ⟨n, 1, if n = 0 then 0xA0 else 0x80, if n = 13 then 0x9F else 0xBF, 1⟩ := by decide
  exact all n most

theorem first_four {n : Nat} (most : n < 5) :
    first (UInt8.ofNat (n + 0xF0)) =
      .inr ⟨n, 1, if n = 0 then 0x90 else 0x80, if n = 4 then 0x8F else 0xBF, 2⟩ := by
  have all : ∀ n < 5, first (UInt8.ofNat (n + 0xF0)) =
      .inr ⟨n, 1, if n = 0 then 0x90 else 0x80, if n = 4 then 0x8F else 0xBF, 2⟩ := by decide
  exact all n most

theorem piecesFrom_scalar {byte : UInt8} {c : Char} (alone : first byte = .inl (.scalar c))
    (rest : List UInt8) : piecesFrom none (byte :: rest) = .scalar c :: piecesFrom none rest := by
  simp [piecesFrom, alone]

theorem piecesFrom_lead {byte : UInt8} {sequence : Opened} (opens : first byte = .inr sequence)
    (rest : List UInt8) : piecesFrom none (byte :: rest) = piecesFrom (some sequence) rest := by
  simp [piecesFrom, opens]

/-! ## Bytes that follow -/

section Following

variable {bits read n : Nat} {low high : UInt8} (least : low.toNat ≤ n % 64 + 128)
  (most : n % 64 + 128 ≤ high.toNat)

theorem toNat_following (n : Nat) : (UInt8.ofNat (n % 64 + 128)).toNat = n % 64 + 128 := by
  rw [UInt8.toNat_ofNat']
  omega

theorem extend_following (sequence : Opened) (n : Nat) :
    sequence.extend (UInt8.ofNat (n % 64 + 128)) = sequence.bits * 64 + n % 64 := by
  rw [Opened.extend, toNat_following]
  omega

include least most

theorem within_bounds :
    (decide (low ≤ UInt8.ofNat (n % 64 + 128)) && decide (UInt8.ofNat (n % 64 + 128) ≤ high)) =
      true := by
  simp only [UInt8.le_iff_toNat_le, toNat_following, least, most, decide_true, Bool.and_self]

theorem piecesFrom_last (rest : List UInt8) :
    piecesFrom (some ⟨bits, read, low, high, 0⟩) (UInt8.ofNat (n % 64 + 128) :: rest) =
      .scalar (Char.ofNat (bits * 64 + n % 64)) :: piecesFrom none rest := by
  simp only [piecesFrom, within_bounds least most, extend_following, ↓reduceIte]

theorem piecesFrom_further (further : Nat) (rest : List UInt8) :
    piecesFrom (some ⟨bits, read, low, high, further + 1⟩) (UInt8.ofNat (n % 64 + 128) :: rest) =
      piecesFrom (some ⟨bits * 64 + n % 64, read + 1, 0x80, 0xBF, further⟩) rest := by
  simp only [piecesFrom, within_bounds least most, extend_following, ↓reduceIte]

end Following

/-! ## Characters -/

theorem ofNat_code (c : Char) {n : Nat} (code : n = c.val.toNat) : Char.ofNat n = c := by
  rw [code]
  exact Char.ofNat_toNat c

/-- The bytes of a character are one piece. Where the second byte has bounds of its own, they
leave exactly the values that are characters. -/
theorem piecesFrom_encodeChar (c : Char) (rest : List UInt8) :
    piecesFrom none (String.utf8EncodeChar c ++ rest) = .scalar c :: piecesFrom none rest := by
  have valid : c.val.toNat < 0xD800 ∨ 0xDFFF < c.val.toNat ∧ c.val.toNat < 0x110000 := c.valid
  have least : ∀ n, (0x80 : UInt8).toNat ≤ n % 64 + 128 := fun n => Nat.le_add_left 128 _
  have most : ∀ n, n % 64 + 128 ≤ (0xBF : UInt8).toNat := fun n => by
    simp only [UInt8.reduceToNat]
    omega
  dsimp only [String.utf8EncodeChar]
  -- One, two, three and four bytes.
  split
  · rw [List.singleton_append, piecesFrom_scalar (first_ascii (by omega)), ofNat_code c rfl]
  split
  · rw [List.cons_append, List.singleton_append,
      piecesFrom_lead (first_two (by omega) (by omega)), piecesFrom_last (least _) (most _),
      ofNat_code c (by omega)]
  split
  · rw [List.cons_append, List.cons_append, List.singleton_append,
      piecesFrom_lead (first_three (by omega)), piecesFrom_further ?_ ?_,
      piecesFrom_last (least _) (most _), ofNat_code c (by omega)]
    all_goals
      split <;> simp only [UInt8.reduceToNat] <;> omega
  · rw [List.cons_append, List.cons_append, List.cons_append, List.singleton_append,
      piecesFrom_lead (first_four (by omega)), piecesFrom_further ?_ ?_,
      piecesFrom_further (least _) (most _), piecesFrom_last (least _) (most _),
      ofNat_code c (by omega)]
    all_goals
      split <;> simp only [UInt8.reduceToNat] <;> omega

/-! ## Texts -/

theorem pieces_encode (cs : List Char) : pieces (encode cs) = cs.map .scalar := by
  induction cs with
  | nil => rfl
  | cons c cs ih =>
    rw [pieces, encode, List.flatMap_cons, piecesFrom_encodeChar, List.map_cons, ← ih]
    rfl

theorem scalars_map (index : Nat) (cs : List Char) : scalars index (cs.map .scalar) = .ok cs := by
  induction cs generalizing index with
  | nil => rfl
  | cons c cs ih =>
    rw [List.map_cons, scalars, ih]
    rfl

theorem decode_encode (cs : List Char) : decode (encode cs) = .ok cs := by
  rw [decode, pieces_encode, scalars_map]

theorem lossy_encode (cs : List Char) : lossy (encode cs) = cs := by
  rw [lossy, pieces_encode, List.map_map]
  exact List.map_id' cs

/-! ## Bytes that can be read -/

/-- Bytes that complete a sequence, and the value they complete it to. -/
inductive Completes : Opened → List UInt8 → Nat → Prop where
  | last {bits read : Nat} {low high byte : UInt8} : low ≤ byte → byte ≤ high →
      Completes ⟨bits, read, low, high, 0⟩ [byte] (bits * 64 + byte.toNat % 64)
  | further {bits read further value : Nat} {low high byte : UInt8} {rest : List UInt8} :
      low ≤ byte → byte ≤ high →
      Completes ⟨bits * 64 + byte.toNat % 64, read + 1, 0x80, 0xBF, further⟩ rest value →
      Completes ⟨bits, read, low, high, further + 1⟩ (byte :: rest) value

theorem exists_completes {sequence : Opened} {bytes : List UInt8} {cs : List Char}
    (cut : piecesFrom (some sequence) bytes = cs.map .scalar) :
    ∃ tail value rest others, Completes sequence tail value ∧ bytes = tail ++ rest ∧
      cs = Char.ofNat value :: others ∧ piecesFrom none rest = others.map .scalar := by
  induction bytes generalizing sequence with
  | nil => cases cs <;> simp [piecesFrom] at cut
  | cons byte bytes ih =>
    obtain ⟨bits, read, low, high, more⟩ := sequence
    by_cases within : low ≤ byte ∧ byte ≤ high
    · cases more with
      | zero =>
        cases cs with
        | nil => simp [piecesFrom, within] at cut
        | cons c others =>
          simp only [piecesFrom, within, decide_true, Bool.and_self, ↓reduceIte, List.map_cons,
            List.cons.injEq, Piece.scalar.injEq] at cut
          exact ⟨[byte], _, bytes, others, .last within.1 within.2, rfl, by rw [← cut.1]; rfl, cut.2⟩
      | succ more =>
        simp only [piecesFrom, within, decide_true, Bool.and_self, ↓reduceIte] at cut
        obtain ⟨tail, value, rest, others, completes, rfl, whole, after⟩ := ih cut
        exact ⟨byte :: tail, value, rest, others, .further within.1 within.2 completes, rfl, whole,
          after⟩
    · have outside : (decide (low ≤ byte) && decide (byte ≤ high)) = false := by
        simpa using within
      cases cs <;> simp [piecesFrom, outside] at cut

theorem encodeChar_ofNat {n : Nat} (valid : n < 0xD800 ∨ 0xDFFF < n ∧ n < 0x110000) :
    String.utf8EncodeChar (Char.ofNat n) =
      if n ≤ 0x7F then [UInt8.ofNat n]
      else if n ≤ 0x7FF then [UInt8.ofNat (n / 64 % 32 + 0xC0), UInt8.ofNat (n % 64 + 0x80)]
      else if n ≤ 0xFFFF then
        [UInt8.ofNat (n / 4096 % 16 + 0xE0), UInt8.ofNat (n / 64 % 64 + 0x80),
          UInt8.ofNat (n % 64 + 0x80)]
      else
        [UInt8.ofNat (n / 262144 % 8 + 0xF0), UInt8.ofNat (n / 4096 % 64 + 0x80),
          UInt8.ofNat (n / 64 % 64 + 0x80), UInt8.ofNat (n % 64 + 0x80)] := by
  have code : (Char.ofNat n).val.toNat = n := toNat_ofNat_of_valid valid
  simp only [String.utf8EncodeChar, code]

theorem ofNat_toNat_of_eq {byte : UInt8} {n : Nat} (code : n = byte.toNat) :
    UInt8.ofNat n = byte := by
  rw [code, UInt8.ofNat_toNat]

section Sequences

variable {a b c d : UInt8} (second : 0x80 ≤ b.toNat ∧ b.toNat ≤ 0xBF)
  (third : 0x80 ≤ c.toNat ∧ c.toNat ≤ 0xBF) (fourth : 0x80 ≤ d.toNat ∧ d.toNat ≤ 0xBF)

include second

theorem encodeChar_two (first : 0xC2 ≤ a.toNat ∧ a.toNat ≤ 0xDF) :
    String.utf8EncodeChar (Char.ofNat (a.toNat % 32 * 64 + b.toNat % 64)) = [a, b] := by
  rw [encodeChar_ofNat (by omega), if_neg (by omega), if_pos (by omega),
    ofNat_toNat_of_eq (show _ = a.toNat by omega), ofNat_toNat_of_eq (show _ = b.toNat by omega)]

include third

theorem encodeChar_three (first : 0xE0 ≤ a.toNat ∧ a.toNat ≤ 0xEF)
    (long : a.toNat = 0xE0 → 0xA0 ≤ b.toNat) (scalar : a.toNat = 0xED → b.toNat ≤ 0x9F) :
    String.utf8EncodeChar
        (Char.ofNat ((a.toNat % 16 * 64 + b.toNat % 64) * 64 + c.toNat % 64)) = [a, b, c] := by
  rw [encodeChar_ofNat (by omega), if_neg (by omega), if_neg (by omega), if_pos (by omega),
    ofNat_toNat_of_eq (show _ = a.toNat by omega), ofNat_toNat_of_eq (show _ = b.toNat by omega),
    ofNat_toNat_of_eq (show _ = c.toNat by omega)]

include fourth

theorem encodeChar_four (first : 0xF0 ≤ a.toNat ∧ a.toNat ≤ 0xF4)
    (long : a.toNat = 0xF0 → 0x90 ≤ b.toNat) (scalar : a.toNat = 0xF4 → b.toNat ≤ 0x8F) :
    String.utf8EncodeChar
        (Char.ofNat (((a.toNat % 8 * 64 + b.toNat % 64) * 64 + c.toNat % 64) * 64 +
          d.toNat % 64)) = [a, b, c, d] := by
  rw [encodeChar_ofNat (by omega), if_neg (by omega), if_neg (by omega), if_neg (by omega),
    ofNat_toNat_of_eq (show _ = a.toNat by omega), ofNat_toNat_of_eq (show _ = b.toNat by omega),
    ofNat_toNat_of_eq (show _ = c.toNat by omega), ofNat_toNat_of_eq (show _ = d.toNat by omega)]

end Sequences

theorem Completes.one {bits read value : Nat} {low high : UInt8} {tail : List UInt8}
    (completes : Completes ⟨bits, read, low, high, 0⟩ tail value) :
    ∃ b : UInt8, tail = [b] ∧ value = bits * 64 + b.toNat % 64 ∧
      low.toNat ≤ b.toNat ∧ b.toNat ≤ high.toNat := by
  cases completes with
  | last least most =>
    exact ⟨_, rfl, rfl, UInt8.le_iff_toNat_le.mp least, UInt8.le_iff_toNat_le.mp most⟩

theorem Completes.more {bits read further value : Nat} {low high : UInt8} {tail : List UInt8}
    (completes : Completes ⟨bits, read, low, high, further + 1⟩ tail value) :
    ∃ (b : UInt8) (rest : List UInt8), tail = b :: rest ∧
      low.toNat ≤ b.toNat ∧ b.toNat ≤ high.toNat ∧
      Completes ⟨bits * 64 + b.toNat % 64, read + 1, 0x80, 0xBF, further⟩ rest value := by
  cases completes with
  | further least most rest =>
    exact ⟨_, _, rfl, UInt8.le_iff_toNat_le.mp least, UInt8.le_iff_toNat_le.mp most, rest⟩

theorem leads_of_first {byte : UInt8} {sequence : Opened} (opens : first byte = .inr sequence) :
    0xC2 ≤ byte.toNat ∧ byte.toNat ≤ 0xF4 := by
  refine Decidable.byContradiction fun outside => ?_
  have closed : open? byte = none := by
    simp only [open?, Bool.and_eq_true, decide_eq_true_eq, beq_iff_eq, UInt8.le_iff_toNat_le,
      ← UInt8.toNat_inj, UInt8.reduceToNat]
    repeat rw [if_neg (by omega)]
  rw [first, closed] at opens
  split at opens <;> cases opens

/-- The bytes that complete what a byte opens are those of a character. -/
theorem encodeChar_of_first {byte : UInt8} {sequence : Opened} {tail : List UInt8} {value : Nat}
    (opens : first byte = .inr sequence) (completes : Completes sequence tail value) :
    String.utf8EncodeChar (Char.ofNat value) = byte :: tail := by
  obtain ⟨least, most⟩ := leads_of_first opens
  have lead {n base : Nat} (code : n + base = byte.toNat) : UInt8.ofNat (n + base) = byte :=
    ofNat_toNat_of_eq code
  by_cases two : byte.toNat ≤ 0xDF
  · have known := first_two (n := byte.toNat % 32) (by omega) (by omega)
    rw [lead (by omega), opens] at known
    cases known
    obtain ⟨b, rfl, rfl, second⟩ := completes.one
    exact encodeChar_two second ⟨least, two⟩
  by_cases three : byte.toNat ≤ 0xEF
  · have known := first_three (n := byte.toNat % 16) (by omega)
    rw [lead (by omega), opens] at known
    cases known
    obtain ⟨b, rest, rfl, second, second', completes⟩ := completes.more
    obtain ⟨c, rfl, rfl, third⟩ := completes.one
    simp only [apply_ite UInt8.toNat, UInt8.reduceToNat] at second second'
    exact encodeChar_three (by split at second <;> split at second' <;> omega) third (by omega)
      (by intro; rw [if_pos] at second <;> omega) (by intro; rw [if_pos] at second' <;> omega)
  · have known := first_four (n := byte.toNat % 8) (by omega)
    rw [lead (by omega), opens] at known
    cases known
    obtain ⟨b, rest, rfl, second, second', completes⟩ := completes.more
    obtain ⟨c, rest, rfl, third, third', completes⟩ := completes.more
    obtain ⟨d, rfl, rfl, fourth⟩ := completes.one
    simp only [apply_ite UInt8.toNat, UInt8.reduceToNat] at second second'
    exact encodeChar_four (by split at second <;> split at second' <;> omega) ⟨third, third'⟩
      fourth (by omega)
      (by intro; rw [if_pos] at second <;> omega) (by intro; rw [if_pos] at second' <;> omega)

/-- A byte that is a character by itself is all the bytes of it. -/
theorem encodeChar_of_alone {byte : UInt8} {c : Char} (alone : first byte = .inl (.scalar c)) :
    String.utf8EncodeChar c = [byte] := by
  have small : byte < 0x80 := by
    refine Decidable.byContradiction fun large => ?_
    rw [first, if_neg large] at alone
    split at alone <;> cases alone
  rw [first, if_pos small] at alone
  cases alone
  have code : byte.toNat < 0x80 := UInt8.lt_iff_toNat_lt.mp small
  rw [encodeChar_ofNat (by omega), if_pos (by omega), ofNat_toNat_of_eq rfl]

/-- Bytes that are cut into characters alone are the bytes of these characters. -/
theorem eq_encode_of_pieces {bytes : List UInt8} {cs : List Char}
    (cut : piecesFrom none bytes = cs.map .scalar) : bytes = encode cs := by
  induction cs generalizing bytes with
  | nil =>
    cases bytes with
    | nil => rfl
    | cons byte bytes =>
      cases opens : first byte with
      | inl piece => simp [piecesFrom, opens] at cut
      | inr sequence =>
        rw [piecesFrom_lead opens] at cut
        obtain ⟨_, _, _, _, _, _, absent, _⟩ := exists_completes cut
        cases absent
  | cons c cs ih =>
    cases bytes with
    | nil => cases cut
    | cons byte bytes =>
      rw [encode, List.flatMap_cons]
      cases opens : first byte with
      | inl piece =>
        simp only [piecesFrom, opens, List.map_cons, List.cons.injEq] at cut
        rw [encodeChar_of_alone (opens.trans (congrArg _ cut.1))]
        exact congrArg (byte :: ·) (ih cut.2)
      | inr sequence =>
        rw [piecesFrom_lead opens] at cut
        obtain ⟨tail, value, rest, others, completes, rfl, same, after⟩ := exists_completes cut
        cases same
        rw [encodeChar_of_first opens completes]
        exact congrArg (byte :: tail ++ ·) (ih after)

theorem eq_map_of_scalars {index : Nat} {cut : List Piece} {cs : List Char}
    (read : scalars index cut = .ok cs) : cut = cs.map .scalar := by
  induction cut generalizing index cs with
  | nil => cases read; rfl
  | cons piece cut ih =>
    cases piece with
    | scalar c =>
      cases rest : scalars (index + c.utf8Size) cut with
      | error fault => simp [scalars, rest, bind, Except.bind] at read
      | ok others =>
        simp only [scalars, rest, bind, Except.bind, pure, Except.pure, Except.ok.injEq] at read
        rw [← read, ih rest]
        rfl
    | invalid | truncated => cases read

/-- Only the bytes of a text are decoded to it. -/
theorem decode_eq_ok_iff {bytes : List UInt8} {cs : List Char} :
    decode bytes = .ok cs ↔ bytes = encode cs := by
  constructor
  · intro read
    exact eq_encode_of_pieces (eq_map_of_scalars read)
  · rintro rfl
    exact decode_encode cs

end Utf8

end Scratchpad.Text
