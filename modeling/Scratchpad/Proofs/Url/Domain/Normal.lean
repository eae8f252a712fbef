import Scratchpad.Proofs.Url.Domain.Tables

/-!
# Normal forms

Characters are taken apart, put in order and composed again. None of this makes a capital out of
something else.
-/

set_option autoImplicit false

namespace Scratchpad.Url.Domain

theorem not_isCapital_of_mem_compositions {composition : Composition}
    (listed : composition ∈ compositions) :
    isCapital composition.whole = false ∧ isCapital composition.letter = false ∧
      isCapital composition.mark = false := by
  obtain ⟨rule, present, made⟩ := List.mem_filterMap.mp listed
  have small := Text.Table.forall_rules compositionRows_uncapital rule present
  split at made
  · rename_i letter mark target
    cases made
    simp only [isUncapital, target, List.all_cons, List.all_nil, Bool.and_true, Bool.and_eq_true,
      Bool.not_eq_true'] at small
    exact ⟨small.2, small.1⟩
  · cases made

-- The table is never opened here.
attribute [local irreducible] compositions

theorem decompose_zero (code : Nat) : decompose 0 code = [code] := rfl

theorem decompose_succ (levels code : Nat) :
    decompose (levels + 1) code =
      if code < 0x80 then [code]
      else if Hangul.isSyllable code then Hangul.parts code
      else match compositions.find? (·.whole == code) with
        | some composition => decompose levels composition.letter ++ [composition.mark]
        | none => [code] := rfl

/-! ## Capitals -/

/-- No code point among these is a capital. -/
def Uncapital (codes : List Nat) : Prop :=
  ∀ code ∈ codes, isCapital code = false

theorem not_isCapital_of_lt {code : Nat} (later : 0x5A < code) : isCapital code = false := by
  simp [isCapital, later]

theorem uncapital_nil : Uncapital [] :=
  fun _ none => nomatch none

theorem uncapital_parts (code : Nat) : Uncapital (Hangul.parts code) := by
  have beyond {start : Nat} (later : 0x5A < start) (offset : Nat) :
      isCapital (start + offset) = false :=
    not_isCapital_of_lt (Nat.lt_of_lt_of_le later (Nat.le_add_right start offset))
  intro part member
  unfold Hangul.parts at member
  rcases List.mem_append.mp member with front | last
  · simp only [List.mem_cons, List.not_mem_nil, or_false] at front
    rcases front with rfl | rfl
    · exact beyond (by decide) _
    · exact beyond (by decide) _
  · split at last
    · cases last
    · rw [List.mem_singleton.mp last]
      exact beyond (by decide) _

theorem uncapital_decompose (levels : Nat) {code : Nat} (small : isCapital code = false) :
    Uncapital (decompose levels code) := by
  induction levels generalizing code with
  | zero => simpa [decompose_zero, Uncapital] using small
  | succ levels ih =>
    rw [decompose_succ]
    split
    · simpa [Uncapital] using small
    split
    · exact uncapital_parts code
    split
    · rename_i composition found
      obtain ⟨-, letter, mark⟩ :=
        not_isCapital_of_mem_compositions (List.mem_of_find?_eq_some found)
      intro part member
      rcases List.mem_append.mp member with front | last
      · exact ih letter part front
      · rw [List.mem_singleton.mp last]
        exact mark
    · simpa [Uncapital] using small

theorem mem_arrange {marks codes : List Nat} {code : Nat} (member : code ∈ arrange marks codes) :
    code ∈ marks ∨ code ∈ codes := by
  induction codes generalizing marks with
  | nil => exact .inl (List.mem_mergeSort.mp member)
  | cons next codes ih =>
    rw [arrange] at member
    split at member
    · rcases List.mem_append.mp member with held | behind
      · exact .inl (List.mem_mergeSort.mp held)
      · rcases List.mem_cons.mp behind with rfl | later
        · exact .inr List.mem_cons_self
        · exact .inr (List.mem_cons_of_mem next ((ih later).resolve_left List.not_mem_nil))
    · rcases ih member with held | later
      · rcases List.mem_append.mp held with before | last
        · exact .inl before
        · exact .inr (List.mem_singleton.mp last ▸ List.mem_cons_self)
      · exact .inr (List.mem_cons_of_mem next later)

theorem not_isCapital_of_compose? {letter mark whole : Nat}
    (composed : compose? letter mark = some whole) : isCapital whole = false := by
  unfold compose? at composed
  split at composed
  · rename_i syllable made
    cases composed
    refine not_isCapital_of_lt ?_
    unfold Hangul.compose? at made
    split at made
    · rw [← Option.some.inj made]
      exact Nat.lt_of_lt_of_le (by decide) (Nat.le_add_right Hangul.syllables _)
    split at made
    · rename_i inside
      simp only [Hangul.isSyllable, Bool.and_eq_true, decide_eq_true_eq] at inside
      rw [← Option.some.inj made]
      calc 0x5A
        _ < Hangul.syllables := by decide
        _ ≤ letter := inside.1.1.1.1
        _ ≤ letter + (mark - Hangul.tails) := Nat.le_add_right _ _
    · cases made
  · obtain ⟨composition, found, rfl⟩ := Option.map_eq_some_iff.mp composed
    exact (not_isCapital_of_mem_compositions (List.mem_of_find?_eq_some found)).1

theorem uncapital_composeFrom {letter : Nat} {marks codes : List Nat}
    (first : isCapital letter = false) (held : Uncapital marks) (rest : Uncapital codes) :
    Uncapital (composeFrom letter marks codes) := by
  induction codes generalizing letter marks with
  | nil =>
    intro code member
    rcases List.mem_cons.mp member with rfl | behind
    · exact first
    · exact held code (List.mem_reverse.mp behind)
  | cons next codes ih =>
    obtain ⟨here, later⟩ := List.forall_mem_cons.mp rest
    rw [composeFrom]
    split
    · rename_i whole made
      split at made
      · exact ih (not_isCapital_of_compose? made) held later
      · cases made
    · split
      · intro code member
        rcases List.mem_append.mp member with front | behind
        · rcases List.mem_cons.mp front with rfl | mark
          · exact first
          · exact held code (List.mem_reverse.mp mark)
        · exact ih here uncapital_nil later code behind
      · exact ih first (List.forall_mem_cons.mpr ⟨here, held⟩) later

theorem uncapital_composeAll {codes : List Nat} (small : Uncapital codes) :
    Uncapital (composeAll codes) := by
  induction codes with
  | nil => exact small
  | cons code codes ih =>
    obtain ⟨here, later⟩ := List.forall_mem_cons.mp small
    rw [composeAll]
    split
    · exact uncapital_composeFrom here uncapital_nil later
    · exact List.forall_mem_cons.mpr ⟨here, ih later⟩

/-- A text without capitals has a normal form without capitals. -/
theorem not_isUpper_normal {text : List Char} (small : ∀ c ∈ text, c.isUpper = false) :
    ∀ c ∈ normal text, c.isUpper = false := by
  intro c member
  unfold normal at member
  split at member
  · exact small c member
  · obtain ⟨code, composed, rfl⟩ := List.mem_map.mp member
    rw [isUpper_eq]
    refine isCapital_ofNat (uncapital_composeAll (fun part arranged => ?_) code composed)
    obtain ⟨d, present, inside⟩ :=
      List.mem_flatMap.mp ((mem_arrange arranged).resolve_left List.not_mem_nil)
    exact uncapital_decompose 2 (isUpper_eq d ▸ small d present) part inside

end Scratchpad.Url.Domain
