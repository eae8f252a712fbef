import Scratchpad.Text.Blank

/-!
# Trimmed texts

A text without the blanks around it is the middle part that neither begins nor ends with a blank,
and there is only one such part. It is empty only if the whole text is blank.
-/

set_option autoImplicit false

namespace Scratchpad.Text

/-- What is left of a whole text without the blanks around it. -/
structure Trims (whole kept : List Char) : Prop where
  around : ∃ before after, whole = before ++ kept ++ after ∧
    (∀ c ∈ before, isBlank c = true) ∧ ∀ c ∈ after, isBlank c = true
  first : ∀ c, kept.head? = some c → isBlank c = false
  last : ∀ c, kept.getLast? = some c → isBlank c = false

theorem dropWhile_append_of_head {α : Type} {drops : α → Bool} {front rest : List α}
    (dropped : ∀ a ∈ front, drops a = true) (kept : ∀ a, rest.head? = some a → drops a = false) :
    (front ++ rest).dropWhile drops = rest := by
  rw [List.dropWhile_append_of_pos dropped]
  cases rest with
  | nil => rfl
  | cons a rest => simp [kept a rfl]

theorem exists_dropped {α : Type} (drops : α → Bool) (items : List α) :
    ∃ front, items = front ++ items.dropWhile drops ∧ ∀ a ∈ front, drops a = true := by
  refine ⟨items.takeWhile drops, List.takeWhile_append_dropWhile.symm, ?_⟩
  intro a member
  exact List.all_eq_true.mp List.all_takeWhile a member

theorem trims_trimChars (whole : List Char) : Trims whole (trimChars whole) := by
  obtain ⟨before, whole_eq, blankBefore⟩ := exists_dropped isBlank whole
  obtain ⟨after, rest_eq, blankAfter⟩ :=
    exists_dropped isBlank (whole.dropWhile isBlank).reverse
  have rest : whole.dropWhile isBlank = trimChars whole ++ after.reverse := by
    rw [trimChars, ← List.reverse_append, ← rest_eq, List.reverse_reverse]
  constructor
  case around =>
    refine ⟨before, after.reverse, ?_, blankBefore, ?_⟩
    · rw [List.append_assoc, ← rest]
      exact whole_eq
    · intro c member
      exact blankAfter c (List.mem_reverse.mp member)
  case first =>
    -- The first character that is kept is the first one behind the blanks before it.
    intro c begins
    have head : (whole.dropWhile isBlank).head? = some c := by
      rw [rest, List.head?_append, begins]
      rfl
    have kept := List.head?_dropWhile_not isBlank whole
    rw [head] at kept
    exact eq_false_of_ne_true (by simpa using kept)
  case last =>
    intro c ends
    have kept := List.head?_dropWhile_not isBlank (whole.dropWhile isBlank).reverse
    rw [trimChars, List.getLast?_reverse] at ends
    rw [ends] at kept
    exact eq_false_of_ne_true (by simpa using kept)

theorem Trims.eq_trimChars {whole kept : List Char} (trims : Trims whole kept) :
    kept = trimChars whole := by
  obtain ⟨⟨before, after, rfl, blankBefore, blankAfter⟩, first, last⟩ := trims
  cases kept with
  | nil =>
    have blank : ∀ c ∈ before ++ [] ++ after, isBlank c = true := by
      intro c member
      rw [List.append_nil] at member
      exact (List.mem_append.mp member).elim (blankBefore c) (blankAfter c)
    have gone : (before ++ [] ++ after ++ []).dropWhile isBlank = [] :=
      dropWhile_append_of_head blank (by simp)
    rw [List.append_nil] at gone
    rw [trimChars, gone]
    rfl
  | cons d kept =>
    have front : (before ++ (d :: kept) ++ after).dropWhile isBlank = (d :: kept) ++ after := by
      rw [List.append_assoc]
      exact dropWhile_append_of_head blankBefore fun c begins => first c begins
    have back : ((d :: kept) ++ after).reverse.dropWhile isBlank = (d :: kept).reverse := by
      rw [List.reverse_append]
      refine dropWhile_append_of_head (fun c member => ?_) fun c ends => ?_
      · exact blankAfter c (List.mem_reverse.mp member)
      · exact last c (by rwa [List.head?_reverse] at ends)
    rw [trimChars, front, back, List.reverse_reverse]

theorem Trims.ne_nil {text : String} {kept : List Char} (trims : Trims text.toList kept)
    (filled : allBlank text = false) : kept ≠ [] := by
  intro empty
  obtain ⟨before, after, whole, blankBefore, blankAfter⟩ := trims.around
  have blank : allBlank text = true := by
    rw [allBlank, whole, empty, List.append_nil, List.all_append, Bool.and_eq_true]
    exact ⟨List.all_eq_true.mpr blankBefore, List.all_eq_true.mpr blankAfter⟩
  rw [blank] at filled
  cases filled

/-- Something is left of a text unless all of it is blank. -/
theorem Trims.exists_not_isBlank {whole kept : List Char} (trims : Trims whole kept)
    (filled : kept ≠ []) : ∃ c ∈ kept, isBlank c = false := by
  obtain ⟨c, rest, rfl⟩ := List.exists_cons_of_ne_nil filled
  exact ⟨c, List.mem_cons_self, trims.first c rfl⟩

end Scratchpad.Text
