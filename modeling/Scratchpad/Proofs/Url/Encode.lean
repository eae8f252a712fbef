import Scratchpad.Proofs.Text.Utf8
import Scratchpad.Url.Encode

/-!
# Settled text

Text that was encoded for a place in a URL holds no character that has to be encoded there, so that
encoding it once more changes nothing. For this the sign and the digits of encoded bytes must stand
for themselves, as they do in every place.
-/

set_option autoImplicit false

namespace Scratchpad.Url

/-- Text in which nothing has to be encoded. -/
def Settled (set : Char → Bool) (cs : List Char) : Prop :=
  ∀ c ∈ cs, set c = false ∧ c.toNat ≤ 0x7F

/-- What the sets have in common: controls and spaces are encoded, and encoded bytes are not. -/
structure IsEncodeSet (set : Char → Bool) : Prop where
  control : ∀ c, controls c = true → set c = true
  space : set ' ' = true
  percent : set '%' = false
  digit : ∀ n < 16, set (upperHexDigit n) = false

theorem isEncodeSet_path : IsEncodeSet pathSet where
  control c control := by simp [pathSet, fragmentSet, control]
  space := by decide
  percent := by decide
  digit := by decide

theorem isEncodeSet_userinfo : IsEncodeSet userinfoSet where
  control c control := by simp [userinfoSet, isEncodeSet_path.control c control]
  space := by decide
  percent := by decide
  digit := by decide

theorem isEncodeSet_query : IsEncodeSet specialQuerySet where
  control c control := by simp [specialQuerySet, querySet, control]
  space := by decide
  percent := by decide
  digit := by decide

theorem isEncodeSet_fragment : IsEncodeSet fragmentSet where
  control c control := by simp [fragmentSet, control]
  space := by decide
  percent := by decide
  digit := by decide

variable {set : Char → Bool} {cs : List Char}

theorem percentEncode_of_settled (settled : Settled set cs) : percentEncode set cs = cs := by
  induction cs with
  | nil => rfl
  | cons c cs ih =>
    obtain ⟨⟨kept, ascii⟩, rest⟩ := List.forall_mem_cons.mp settled
    have stays : ¬ (set c || decide (0x7F < c.toNat)) = true := by
      simpa [kept] using ascii
    rw [percentEncode, List.flatMap_cons, if_neg stays]
    exact congrArg (c :: ·) (ih rest)

theorem mem_encodeByte {byte : UInt8} {c : Char} (member : c ∈ encodeByte byte) :
    c = '%' ∨ ∃ n < 16, c = upperHexDigit n := by
  have bound := byte.toNat_lt
  simp only [encodeByte, List.mem_cons, List.not_mem_nil, or_false] at member
  rcases member with percent | high | low
  · exact .inl percent
  · exact .inr ⟨_, by omega, high⟩
  · exact .inr ⟨_, Nat.mod_lt _ (by decide), low⟩

/-- Encoded text holds what stands for itself, and signs and digits of bytes. -/
theorem mem_percentEncode {c : Char} (member : c ∈ percentEncode set cs) :
    (c ∈ cs ∧ set c = false ∧ c.toNat ≤ 0x7F) ∨ c = '%' ∨ ∃ n < 16, c = upperHexDigit n := by
  obtain ⟨d, present, inside⟩ := List.mem_flatMap.mp member
  split at inside
  · obtain ⟨byte, -, here⟩ := List.mem_flatMap.mp inside
    exact .inr (mem_encodeByte here)
  · rename_i stays
    obtain rfl := List.mem_singleton.mp inside
    exact .inl ⟨present, by simpa using stays⟩

theorem settled_percentEncode (sets : IsEncodeSet set) (cs : List Char) :
    Settled set (percentEncode set cs) := by
  have ascii : ∀ n < 16, (upperHexDigit n).toNat ≤ 0x7F := by decide
  intro c member
  rcases mem_percentEncode member with ⟨-, settled⟩ | rfl | ⟨n, small, rfl⟩
  · exact settled
  · exact ⟨sets.percent, by decide⟩
  · exact ⟨sets.digit n small, ascii n small⟩

theorem percentEncode_ne_nil (filled : cs ≠ []) : percentEncode set cs ≠ [] := by
  obtain ⟨c, rest, rfl⟩ := List.exists_cons_of_ne_nil filled
  rw [percentEncode, List.flatMap_cons]
  refine List.append_ne_nil_of_left_ne_nil ?_ _
  split
  · obtain ⟨byte, bytes, encoded⟩ :=
      List.exists_cons_of_ne_nil (@String.utf8EncodeChar_ne_nil c)
    rw [encoded, List.flatMap_cons]
    exact List.cons_ne_nil _ _
  · exact List.cons_ne_nil c []

/-- A text of characters that are seen, all inside ASCII. -/
def IsVisible (cs : List Char) : Prop :=
  ∀ c ∈ cs, 0x20 < c.toNat ∧ c.toNat < 0x7F

theorem Settled.isVisible (settled : Settled set cs) (sets : IsEncodeSet set) : IsVisible cs := by
  intro c member
  obtain ⟨kept, ascii⟩ := settled c member
  have uncontrolled : controls c = false := by
    refine Bool.eq_false_iff.mpr fun control => ?_
    rw [sets.control c control] at kept
    cases kept
  have unspaced : c.toNat ≠ 0x20 := by
    intro space
    have same : c = ' ' := Char.toNat_inj.mp space
    rw [same, sets.space] at kept
    cases kept
  simp only [controls, Bool.or_eq_false_iff, decide_eq_false_iff_not, beq_eq_false_iff_ne]
    at uncontrolled
  omega

theorem percentDecode_of_unencoded (plain : '%' ∉ cs) :
    percentDecode cs = Text.Utf8.encode cs := by
  induction cs with
  | nil => rfl
  | cons c cs ih =>
    obtain ⟨here, rest⟩ := not_or.mp (mt List.mem_cons.mpr plain)
    rw [percentDecode, ih rest]
    · rfl
    · intro a b more same
      exact absurd same.symm here

end Scratchpad.Url
