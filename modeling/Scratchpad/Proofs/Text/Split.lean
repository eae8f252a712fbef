import Scratchpad.Text.Split

/-!
# Parts of a split sequence

Laws of `Text.split`. Parts are free of separators, splitting a sequence around a separator gives
the parts of both sides, and a part that has none of a larger set of separators is also a part
with respect to that set.
-/

set_option autoImplicit false

namespace Scratchpad.Text

variable {α : Type} {separates : α → Bool}

theorem split_eq_cons (separates : α → Bool) (cs : List α) :
    ∃ part parts, split separates cs = part :: parts := by
  cases found : split separates cs with
  | nil => exact absurd found (split_ne_nil separates cs)
  | cons part parts => exact ⟨part, parts, rfl⟩

theorem split_cons_of_separates {c : α} (ends : separates c = true) (cs : List α) :
    split separates (c :: cs) = [] :: split separates cs := by
  simp [split, ends]

theorem split_cons_of_not {c : α} {cs part : List α} {parts : List (List α)}
    (inside : separates c = false) (rest : split separates cs = part :: parts) :
    split separates (c :: cs) = (c :: part) :: parts := by
  simp [split, inside, rest]

theorem not_separates_of_mem_split {cs part : List α} (member : part ∈ split separates cs) :
    ∀ c ∈ part, separates c = false := by
  induction cs generalizing part with
  | nil =>
    have empty : part = [] := by simpa [split] using member
    simp [empty]
  | cons c cs ih =>
    cases ends : separates c with
    | true =>
      rw [split_cons_of_separates ends] at member
      rcases List.mem_cons.mp member with rfl | later
      · simp
      · exact ih later
    | false =>
      obtain ⟨first, parts, rest⟩ := split_eq_cons separates cs
      rw [split_cons_of_not ends rest] at member
      rcases List.mem_cons.mp member with rfl | later
      · intro d inside
        rcases List.mem_cons.mp inside with rfl | within
        · exact ends
        · exact ih (rest ▸ List.mem_cons_self) d within
      · exact ih (rest ▸ List.mem_cons_of_mem first later)

theorem split_eq_singleton {cs : List α} (free : ∀ c ∈ cs, separates c = false) :
    split separates cs = [cs] := by
  induction cs with
  | nil => rfl
  | cons c cs ih =>
    have rest := ih fun d inside => free d (List.mem_cons_of_mem c inside)
    exact split_cons_of_not (free c List.mem_cons_self) rest

theorem split_append_separator (left : List α) {c : α} (ends : separates c = true)
    (right : List α) :
    split separates (left ++ c :: right) = split separates left ++ split separates right := by
  induction left with
  | nil => simp [split, ends]
  | cons d left ih =>
    cases separator : separates d with
    | true =>
      rw [List.cons_append, split_cons_of_separates separator, ih,
        split_cons_of_separates separator, List.cons_append]
    | false =>
      obtain ⟨first, parts, rest⟩ := split_eq_cons separates left
      have whole : split separates (left ++ c :: right) =
          first :: (parts ++ split separates right) := by
        rw [ih, rest, List.cons_append]
      rw [List.cons_append, split_cons_of_not separator whole, split_cons_of_not separator rest,
        List.cons_append]

theorem split_congr {other : α → Bool} {cs : List α}
    (same : ∀ c ∈ cs, separates c = other c) : split separates cs = split other cs := by
  induction cs with
  | nil => rfl
  | cons c cs ih =>
    obtain ⟨here, later⟩ := List.forall_mem_cons.mp same
    rw [split, split, here, ih later]

theorem separates_or_mem_split (separates : α → Bool) {cs : List α} {c : α} (member : c ∈ cs) :
    separates c = true ∨ ∃ part ∈ split separates cs, c ∈ part := by
  induction cs with
  | nil => cases member
  | cons d cs ih =>
    obtain ⟨part, parts, rest⟩ := split_eq_cons separates cs
    cases ends : separates d with
    | true =>
      rw [split_cons_of_separates ends]
      rcases List.mem_cons.mp member with rfl | later
      · exact .inl ends
      · exact (ih later).imp_right fun ⟨found, present, inside⟩ =>
          ⟨found, List.mem_cons_of_mem _ present, inside⟩
    | false =>
      rw [split_cons_of_not ends rest]
      rcases List.mem_cons.mp member with rfl | later
      · exact .inr ⟨_, List.mem_cons_self, List.mem_cons_self⟩
      · refine (ih later).imp_right fun ⟨found, present, inside⟩ => ?_
        rw [rest] at present
        rcases List.mem_cons.mp present with rfl | beyond
        · exact ⟨_, List.mem_cons_self, List.mem_cons_of_mem _ inside⟩
        · exact ⟨found, List.mem_cons_of_mem _ beyond, inside⟩

theorem flatMap_split [BEq α] [LawfulBEq α] (separator : α) (cs : List α) :
    (split (· == separator) cs).flatMap (separator :: ·) = separator :: cs := by
  induction cs with
  | nil => rfl
  | cons c cs ih =>
    obtain ⟨part, parts, rest⟩ := split_eq_cons (· == separator) cs
    rw [rest, List.flatMap_cons] at ih
    by_cases ends : c = separator
    · have cut : split (· == separator) (c :: cs) = [] :: part :: parts := by
        simp [split, ends, rest]
      rw [cut, List.flatMap_cons, List.flatMap_cons, ih, ends]
      rfl
    · have kept : split (· == separator) (c :: cs) = (c :: part) :: parts := by
        simp [split, ends, rest]
      rw [kept, List.flatMap_cons, ← (List.cons.inj ih).2]
      rfl

theorem split_injective [BEq α] [LawfulBEq α] {separator : α} {first second : List α}
    (same : split (· == separator) first = split (· == separator) second) : first = second := by
  have whole := flatMap_split separator first
  rw [same, flatMap_split] at whole
  exact (List.cons.inj whole).2.symm

theorem mem_of_mem_split {cs part : List α} (member : part ∈ split separates cs) {c : α}
    (inside : c ∈ part) : c ∈ cs := by
  induction cs generalizing part with
  | nil =>
    have empty : part = [] := by simpa [split] using member
    rw [empty] at inside
    cases inside
  | cons d cs ih =>
    cases ends : separates d with
    | true =>
      rw [split_cons_of_separates ends] at member
      rcases List.mem_cons.mp member with rfl | later
      · cases inside
      · exact List.mem_cons_of_mem d (ih later inside)
    | false =>
      obtain ⟨first, parts, rest⟩ := split_eq_cons separates cs
      rw [split_cons_of_not ends rest] at member
      rcases List.mem_cons.mp member with rfl | later
      · rcases List.mem_cons.mp inside with rfl | within
        · exact List.mem_cons_self
        · exact List.mem_cons_of_mem d (ih (rest ▸ List.mem_cons_self) within)
      · exact List.mem_cons_of_mem d (ih (rest ▸ List.mem_cons_of_mem first later) inside)

/-- Parts without separators are the parts of what they make up with a separator between them. -/
theorem split_append_flatMap {c : α} (ends : separates c = true) {first : List α}
    {rest : List (List α)} (free : ∀ part ∈ first :: rest, ∀ d ∈ part, separates d = false) :
    split separates (first ++ rest.flatMap (c :: ·)) = first :: rest := by
  induction rest generalizing first with
  | nil =>
    rw [List.flatMap_nil, List.append_nil]
    exact split_eq_singleton (free first List.mem_cons_self)
  | cons next rest ih =>
    obtain ⟨here, later⟩ := List.forall_mem_cons.mp free
    rw [List.flatMap_cons, List.cons_append, split_append_separator first ends,
      split_eq_singleton here, ih later]
    rfl

theorem join_cons (c : Char) (first : List Char) (rest : List (List Char)) :
    join [c] (first :: rest) = first ++ rest.flatMap (c :: ·) := by
  induction rest generalizing first with
  | nil => rw [join, List.flatMap_nil, List.append_nil]
  | cons next rest ih =>
    rw [join, ih, List.flatMap_cons, List.append_assoc]
    · rfl
    · exact List.cons_ne_nil next rest

theorem split_join {c : Char} {parts : List (List Char)} (filled : parts ≠ [])
    (free : ∀ part ∈ parts, c ∉ part) : split (· == c) (join [c] parts) = parts := by
  obtain ⟨first, rest, rfl⟩ := List.exists_cons_of_ne_nil filled
  rw [join_cons]
  refine @split_append_flatMap _ (· == c) c (beq_self_eq_true c) _ _ fun part member d inside => ?_
  exact beq_false_of_ne fun same => free part member (same ▸ inside)

theorem join_split (c : Char) (cs : List Char) : join [c] (split (· == c) cs) = cs := by
  have whole := flatMap_split c cs
  obtain ⟨first, rest, cut⟩ := split_eq_cons (· == c) cs
  rw [cut, List.flatMap_cons, List.cons_append] at whole
  rw [cut, join_cons]
  exact (List.cons.inj whole).2

theorem mem_join_of {separator : List Char} {parts : List (List Char)} {c : Char}
    (member : c ∈ join separator parts) : c ∈ separator ∨ ∃ part ∈ parts, c ∈ part := by
  fun_induction join separator parts with
  | case1 => cases member
  | case2 part => exact .inr ⟨part, List.mem_cons_self, member⟩
  | case3 part parts _ ih =>
    rw [List.mem_append, List.mem_append] at member
    rcases member with (here | between) | later
    · exact .inr ⟨part, List.mem_cons_self, here⟩
    · exact .inl between
    · exact (ih later).imp_right fun ⟨other, present, inside⟩ =>
        ⟨other, List.mem_cons_of_mem part present, inside⟩

theorem exists_part_of_mapM {β : Type} {read : α → Option β} {parts : List α} {results : List β}
    (each : parts.mapM read = some results) {result : β} (member : result ∈ results) :
    ∃ part ∈ parts, read part = some result := by
  induction parts generalizing results with
  | nil =>
    cases each
    cases member
  | cons part parts ih =>
    simp only [List.mapM_cons, Option.bind_eq_bind, Option.bind_eq_some_iff] at each
    obtain ⟨first, here, rest, further, ⟨⟩⟩ := each
    rcases List.mem_cons.mp member with rfl | later
    · exact ⟨part, List.mem_cons_self, here⟩
    · obtain ⟨other, present, same⟩ := ih further later
      exact ⟨other, List.mem_cons_of_mem part present, same⟩

/-! ## Sequences that are cut at a mark -/

theorem span_append_mark {keeps : α → Bool} {front : List α} (kept : ∀ c ∈ front, keeps c = true)
    {mark : α} (ends : keeps mark = false) (back : List α) :
    (front ++ mark :: back).takeWhile keeps = front ∧
      (front ++ mark :: back).dropWhile keeps = mark :: back := by
  rw [List.takeWhile_append_of_pos kept, List.dropWhile_append_of_pos kept]
  simp [ends]

section LastMark

variable {mark : Char} {back : List Char} (single : mark ∉ back)
include single

private theorem ne_of_mem_reverse : ∀ c ∈ back.reverse, (c != mark) = true := by
  intro c inside
  exact bne_iff_ne.mpr fun same => single (same ▸ List.mem_reverse.mp inside)

theorem afterLast_of_not_mem : (back.reverse.takeWhile (· != mark)).reverse = back := by
  have whole := @List.takeWhile_append_of_pos _ _ _ [] (ne_of_mem_reverse single)
  rw [List.append_nil, List.takeWhile_nil, List.append_nil] at whole
  rw [whole, List.reverse_reverse]

theorem afterLast_append (front : List Char) :
    ((front ++ mark :: back).reverse.takeWhile (· != mark)).reverse = back := by
  have shape : (front ++ mark :: back).reverse = back.reverse ++ mark :: front.reverse := by
    rw [List.reverse_append, List.reverse_cons, List.append_assoc, List.singleton_append]
  rw [shape, (span_append_mark (ne_of_mem_reverse single) (bne_self_eq_false mark) _).1,
    List.reverse_reverse]

end LastMark

theorem take_before_mark (front back : List α) (mark : α) :
    (front ++ mark :: back).take ((front ++ mark :: back).length - back.length - 1) = front := by
  have count : (front ++ mark :: back).length - back.length - 1 = front.length := by
    simp only [List.length_append, List.length_cons]
    omega
  rw [count, List.take_left]

section Finer

variable {finer : α → Bool} (includes : ∀ c, separates c = true → finer c = true)
include includes

private theorem head_split_finer {cs part : List α} {parts : List (List α)}
    (first : split separates cs = part :: parts) (whole : ∀ c ∈ part, finer c = false) :
    ∃ others, split finer cs = part :: others := by
  induction cs generalizing part parts with
  | nil =>
    cases first
    exact ⟨[], rfl⟩
  | cons c cs ih =>
    cases ends : separates c with
    | true =>
      rw [split_cons_of_separates ends] at first
      cases first
      exact ⟨_, split_cons_of_separates (includes c ends) cs⟩
    | false =>
      obtain ⟨start, rest, split⟩ := split_eq_cons separates cs
      rw [split_cons_of_not ends split] at first
      cases first
      obtain ⟨others, same⟩ := ih split fun d inside => whole d (List.mem_cons_of_mem c inside)
      exact ⟨others, split_cons_of_not (whole c List.mem_cons_self) same⟩

private theorem tail_split_finer {cs part : List α} (member : part ∈ (split separates cs).tail)
    (whole : ∀ c ∈ part, finer c = false) : part ∈ (split finer cs).tail := by
  induction cs with
  | nil => simp [split] at member
  | cons c cs ih =>
    obtain ⟨start, rest, parts⟩ := split_eq_cons separates cs
    obtain ⟨first, others, sharper⟩ := split_eq_cons finer cs
    rw [parts, sharper] at ih
    cases ends : separates c with
    | true =>
      rw [split_cons_of_separates ends, List.tail_cons, parts] at member
      rw [split_cons_of_separates (includes c ends), List.tail_cons]
      rcases List.mem_cons.mp member with rfl | later
      · obtain ⟨_, same⟩ := head_split_finer includes parts whole
        exact same ▸ List.mem_cons_self
      · exact sharper ▸ List.mem_cons_of_mem first (ih later)
    | false =>
      rw [split_cons_of_not ends parts] at member
      have inner := ih member
      cases sharp : finer c with
      | true =>
        rw [split_cons_of_separates sharp, List.tail_cons, sharper]
        exact List.mem_cons_of_mem first inner
      | false =>
        rw [split_cons_of_not sharp sharper]
        exact inner

/-- A part without any of more separators is a part for these as well. -/
theorem mem_split_finer {cs part : List α} (member : part ∈ split separates cs)
    (whole : ∀ c ∈ part, finer c = false) : part ∈ split finer cs := by
  obtain ⟨start, rest, parts⟩ := split_eq_cons separates cs
  rw [parts] at member
  rcases List.mem_cons.mp member with rfl | later
  · obtain ⟨others, same⟩ := head_split_finer includes parts whole
    exact same ▸ List.mem_cons_self
  · have inner : part ∈ (split separates cs).tail := by rw [parts]; exact later
    exact List.mem_of_mem_tail (tail_split_finer includes inner whole)

end Finer

end Scratchpad.Text
