import Scratchpad.Proofs.Json.Parse

/-!
# Compact texts

The compact text of a value is one of the texts of the grammar that hold it, so parsing gives the
value back. This is asked only of values whose numbers are exact: a floating-point number is
written with the fewest digits that tell it from its neighbours, and read with less care.
-/

set_option autoImplicit false

namespace Scratchpad.Json

/-! ## Strings -/

theorem fourHex_of_lt : ∀ n < 0x20,
    fourHex n = ['0', '0', Nat.digitChar (n / 16), Nat.digitChar (n % 16)] ∧
      hexUnit? '0' '0' (Nat.digitChar (n / 16)) (Nat.digitChar (n % 16)) = some n := by
  decide

theorem letter_escape (c : Char) (rest : List Char) : Letter (escape c ++ rest) c rest := by
  unfold escape
  split
  iterate 7 exact .short (by decide)
  · next quote backslash _ _ _ _ _ =>
    split
    · next control =>
      obtain ⟨digits, value⟩ := fourHex_of_lt c.toNat control
      rw [digits]
      exact .unit value
    · next visible => exact .plain quote backslash (Nat.le_of_not_lt visible)

theorem letters_escape (text rest : List Char) :
    Letters (text.flatMap escape ++ ('"' :: rest)) text rest := by
  induction text with
  | nil => exact .close
  | cons c text ih =>
    rw [List.flatMap_cons, List.append_assoc]
    exact .more (letter_escape c _) ih

theorem quote_append (text : String) (rest : List Char) :
    quote text ++ rest = '"' :: (text.toList.flatMap escape ++ ('"' :: rest)) := by
  simp [quote]

/-! ## Numbers -/

theorem areDigits_toDigits (n : Nat) : AreDigits (Nat.toDigits 10 n) := by
  refine ⟨Nat.toDigits_ne_nil, ?_⟩
  intro d inside
  have digit := Nat.isDigit_of_mem_toDigits (by decide) (by decide) inside
  simp only [Char.isDigit, Bool.and_eq_true, decide_eq_true_eq] at digit
  simp only [isDigit, Bool.and_eq_true, decide_eq_true_eq, Char.le_def]
  exact digit

/-- Only the digits of zero begin with a zero. -/
theorem eq_zero_of_head_toDigits (n : Nat) : (Nat.toDigits 10 n).head? = some '0' → n = 0 := by
  induction n using Nat.strongRecOn with
  | ind n ih =>
    intro zero
    by_cases single : n < 10
    · rw [Nat.toDigits_of_lt_base single, List.head?_cons, Option.some.injEq] at zero
      have value := Nat.toNat_digitChar_of_lt_ten single
      rw [zero] at value
      exact (Nat.add_eq_left.mp value.symm)
    · rw [Nat.toDigits_of_base_le (by decide) (Nat.le_of_not_lt single),
        List.head?_append, List.head?_eq_some_head Nat.toDigits_ne_nil, Option.some_or,
        ← List.head?_eq_some_head] at zero
      have short := ih (n / 10) (by omega) zero
      omega

namespace Numeral

theorem le_ofDigitChars (ds : List Char) (n : Nat) : n ≤ Nat.ofDigitChars 10 ds n := by
  induction ds generalizing n with
  | nil => exact Nat.le_of_eq Nat.ofDigitChars_nil.symm
  | cons d ds ih =>
    rw [Nat.ofDigitChars_cons]
    calc n
      _ ≤ 10 * n + (d.toNat - '0'.toNat) := by omega
      _ ≤ _ := ih _

/-- Nothing is left over of digits whose value is within the limit. -/
theorem absorb_eq {limit : Nat} (ds : List Char) (n : Nat)
    (within : Nat.ofDigitChars 10 ds n ≤ limit) :
    absorb limit n ds = (Nat.ofDigitChars 10 ds n, []) := by
  induction ds generalizing n with
  | nil => rw [absorb, Nat.ofDigitChars_nil]
  | cons d ds ih =>
    rw [Nat.ofDigitChars_cons] at within ⊢
    have next : n * 10 + digitValue d = 10 * n + (d.toNat - '0'.toNat) := by
      rw [digitValue, Nat.mul_comm]
    have low := Nat.le_trans (le_ofDigitChars ds _) within
    rw [absorb, next, if_neg (Nat.not_lt.mpr low)]
    exact ih _ within

end Numeral

/-- The numbers that are written as they are read. -/
def Number.Exact : Number → Prop
  | .natural n => n ≤ 0xFFFFFFFFFFFFFFFF
  | .negative n => 0 < n ∧ n ≤ 0x8000000000000000
  | .real _ _ => False

theorem Number.Exact.written {n : Number} (exact : n.Exact) (rest : List Char) :
    Written (n.render ++ rest) (.number n) rest := by
  have numeral (negative : Bool) (m : Nat) : NumeralText ⟨negative, Nat.toDigits 10 m, none, none⟩
      ((if negative then ['-'] else []) ++ (Nat.toDigits 10 m ++ ([] ++ []))) := by
    refine .of (areDigits_toDigits m) ?_ .none .none
    intro zero
    rw [eq_zero_of_head_toDigits m zero, Nat.toDigits_zero]
  have value (m : Nat) (within : m ≤ Numeral.greatestSignificand) :
      Numeral.absorb Numeral.greatestSignificand 0 (Nat.toDigits 10 m) = (m, []) := by
    have same := Nat.ofDigitChars_ten_toDigits (n := m)
    rw [Numeral.absorb_eq _ _ (by rw [same]; exact within), same]
  cases n with
  | natural m =>
    refine .number .none (by simpa [Number.render] using numeral false m) ?_
    simp [Numeral.value?, value m exact]
  | negative m =>
    obtain ⟨some, bounded⟩ := exact
    refine .number .none (by simpa [Number.render] using numeral true m) ?_
    simp [Numeral.value?, value m (Nat.le_trans bounded (by decide)), some, bounded]
  | real negative x => cases exact

/-! ## Values -/

namespace Value

mutual

/-- All numbers of the value are exact. -/
def Exact : Value → Prop
  | .number n => n.Exact
  | .array items => ItemsExact items
  | .object members => MembersExact members
  | _ => True

def ItemsExact : List Value → Prop
  | [] => True
  | item :: items => item.Exact ∧ ItemsExact items

def MembersExact : List (String × Value) → Prop
  | [] => True
  | (_, value) :: members => value.Exact ∧ MembersExact members

end

theorem itemsExact_iff {items : List Value} : ItemsExact items ↔ ∀ item ∈ items, item.Exact := by
  induction items with
  | nil => simp [ItemsExact]
  | cons item items ih => simp [ItemsExact, ih]

theorem membersExact_iff {members : List (String × Value)} :
    MembersExact members ↔ ∀ member ∈ members, member.2.Exact := by
  induction members with
  | nil => simp [MembersExact]
  | cons member members ih => simp [MembersExact, ih]

theorem writtenItems_comma {cs rest : List Char} {item : Value} {items : List Value}
    (written : WrittenItems true cs (item :: items) rest) :
    WrittenItems false (',' :: cs) (item :: items) rest := by
  cases written with
  | item lead here others =>
    cases lead with
    | first => exact .item (.comma .none) here others

theorem writtenMembers_comma {cs rest : List Char} {member : String × Value}
    {members : List (String × Value)} (written : WrittenMembers true cs (member :: members) rest) :
    WrittenMembers false (',' :: cs) (member :: members) rest := by
  cases written with
  | member lead quote letters colon here others =>
    cases lead with
    | first => exact .member (.comma .none) quote letters colon here others

mutual

theorem Exact.written : ∀ {value : Value}, value.Exact → ∀ rest : List Char,
    Written (value.render ++ rest) value rest
  | .null, _, _ => .null .none
  | .boolean true, _, _ => .yes .none
  | .boolean false, _, _ => .no .none
  | .number _, exact, rest => Number.Exact.written exact rest
  | .string text, _, rest => by
    rw [render, quote_append]
    exact .string .none (letters_escape text.toList rest)
  | .array _, exact, rest => .array .none (ItemsExact.written exact rest)
  | .object _, exact, rest => .object .none (MembersExact.written exact rest)

theorem ItemsExact.written : ∀ {items : List Value}, ItemsExact items → ∀ rest : List Char,
    WrittenItems true (renderItems items ++ rest) items rest
  | [], _, _ => .close .none
  | [item], exact, rest => by
    rw [renderItems, List.append_assoc]
    exact .item .first (exact.1.written _) (.close .none)
  | item :: next :: items, exact, rest => by
    have further := writtenItems_comma (ItemsExact.written exact.2 rest)
    simp only [renderItems, List.append_assoc, List.cons_append]
    exact .item .first (exact.1.written _) further

theorem MembersExact.written : ∀ {members : List (String × Value)}, MembersExact members →
    ∀ rest : List Char, WrittenMembers true (renderMembers members ++ rest) members rest
  | [], _, _ => .close .none
  | [(key, value)], exact, rest => by
    simp only [renderMembers, List.append_assoc, quote_append, List.cons_append]
    exact .member .first .none (letters_escape key.toList _) .none (exact.1.written _)
      (.close .none)
  | (key, value) :: next :: members, exact, rest => by
    have further := writtenMembers_comma (MembersExact.written exact.2 rest)
    simp only [renderMembers, List.append_assoc, quote_append, List.cons_append]
    exact .member .first .none (letters_escape key.toList _) .none (exact.1.written _) further

end

theorem Exact.holds {value : Value} (exact : value.Exact) : Holds value.compact value := by
  refine ⟨[], ?_, .none⟩
  simpa [compact] using exact.written []

end Value

end Scratchpad.Json
