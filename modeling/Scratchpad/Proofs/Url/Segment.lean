import Scratchpad.Proofs.Text.Split
import Scratchpad.Proofs.Url.Encode
import Scratchpad.Url.Basic

/-!
# Paths as segments

No segment of a path contains a slash, so that a path as text begins with another one, closed by
a slash, exactly if its segments begin with the segments of the other.
-/

set_option autoImplicit false

namespace Scratchpad.Url

theorem slash_not_mem_percentEncode {cs : List Char} (clean : '/' ∉ cs) (set : Char → Bool) :
    '/' ∉ percentEncode set cs := by
  have digits : ∀ n < 16, '/' ≠ upperHexDigit n := by decide
  intro member
  rcases mem_percentEncode member with ⟨present, -⟩ | percent | ⟨n, small, same⟩
  · exact clean present
  · cases percent
  · exact digits n small same

/-! ## Segments without slashes -/

/-- Segments without slashes in them. -/
def IsSegmented (segments : List (List Char)) : Prop :=
  ∀ segment ∈ segments, '/' ∉ segment

theorem isSegmented_append {first second : List (List Char)} (left : IsSegmented first)
    (right : IsSegmented second) : IsSegmented (first ++ second) := by
  intro segment member
  rcases List.mem_append.mp member with earlier | later
  · exact left segment earlier
  · exact right segment later

theorem isSegmented_singleton {segment : List Char} (clean : '/' ∉ segment) :
    IsSegmented [segment] := by
  simpa [IsSegmented] using clean

theorem isSegmented_written (kind : Kind) (path : List Char) : IsSegmented (written kind path) := by
  intro segment member
  obtain ⟨part, present, rfl⟩ := List.mem_map.mp member
  refine slash_not_mem_percentEncode (fun found => ?_) pathSet
  have separates := Text.not_separates_of_mem_split present '/' found
  simp [isSlash] at separates

theorem isSegmented_dropLast {segments : List (List Char)} (clean : IsSegmented segments) :
    IsSegmented segments.dropLast :=
  fun segment member => clean segment (List.dropLast_subset segments member)

theorem isSegmented_above {directory : List (List Char)} (clean : IsSegmented directory) :
    IsSegmented (above directory) := by
  unfold above
  split
  · exact clean
  · exact isSegmented_dropLast clean

theorem slash_not_mem_placed {segment : List Char} (clean : '/' ∉ segment) (kind : Kind)
    (directory : List (List Char)) : '/' ∉ placed kind directory segment := by
  unfold placed
  split
  · have front : '/' ∉ segment.take 1 := fun found => clean (List.mem_of_mem_take found)
    simp [front]
  · exact clean

theorem isSegmented_descend (kind : Kind) {directory segments : List (List Char)}
    (start : IsSegmented directory) (clean : IsSegmented segments) :
    IsSegmented (descend kind directory segments) := by
  have empty : IsSegmented [[]] := isSegmented_singleton (by simp)
  fun_induction descend kind directory segments with
  | case1 directory => exact start
  | case2 directory last double => exact isSegmented_append (isSegmented_above start) empty
  | case3 directory last double single => exact isSegmented_append start empty
  | case4 directory last double single =>
    exact isSegmented_append start (isSegmented_singleton
      (slash_not_mem_placed (clean last List.mem_cons_self) kind directory))
  | case5 directory segment rest more double ih =>
    exact ih (isSegmented_above start) fun other later => clean other (List.mem_cons_of_mem _ later)
  | case6 directory segment rest more double single ih =>
    exact ih start fun other later => clean other (List.mem_cons_of_mem _ later)
  | case7 directory segment rest more double single ih =>
    refine ih (isSegmented_append start (isSegmented_singleton
      (slash_not_mem_placed (clean segment List.mem_cons_self) kind directory))) ?_
    exact fun other later => clean other (List.mem_cons_of_mem _ later)

theorem written_ne_nil (kind : Kind) (path : List Char) : written kind path ≠ [] := by
  simp [written, Text.split_ne_nil]

theorem descend_ne_nil (kind : Kind) (directory : List (List Char)) {segments : List (List Char)}
    (goes : segments ≠ []) : descend kind directory segments ≠ [] := by
  fun_induction descend kind directory segments <;> simp_all

/-- Segments without dots are gone down one by one. -/
theorem descend_of_no_dots (directory : List (List Char)) {segments : List (List Char)}
    (undotted : ∀ segment ∈ segments, isDoubleDot segment = false ∧ isSingleDot segment = false) :
    descend .special directory segments = directory ++ segments := by
  fun_induction descend .special directory segments with
  | case1 directory => rw [List.append_nil]
  | case2 directory last double => simp [undotted last List.mem_cons_self] at double
  | case3 directory last _ single => simp [undotted last List.mem_cons_self] at single
  | case4 directory last => rfl
  | case5 directory segment rest _ double => simp [undotted segment List.mem_cons_self] at double
  | case6 directory segment rest _ _ single => simp [undotted segment List.mem_cons_self] at single
  | case7 directory segment rest _ _ _ ih =>
    rw [ih fun other later => undotted other (List.mem_cons_of_mem _ later), List.append_assoc]
    rfl

theorem mem_above {directory : List (List Char)} {segment : List Char}
    (member : segment ∈ above directory) : segment ∈ directory := by
  unfold above at member
  split at member
  · exact member
  · exact List.dropLast_subset directory member

/-- No dots are left where segments lead, and nothing is brought in but an empty segment. -/
theorem mem_descend {directory segments : List (List Char)} {segment : List Char}
    (member : segment ∈ descend .special directory segments) :
    segment ∈ directory ∨ segment = [] ∨
      segment ∈ segments ∧ isDoubleDot segment = false ∧ isSingleDot segment = false := by
  have either {last : List Char} {above : List (List Char)} (inside : segment ∈ above ++ [last]) :
      segment ∈ above ∨ segment = last :=
    (List.mem_append.mp inside).imp_right List.mem_singleton.mp
  fun_induction descend .special directory segments with
  | case1 directory => exact .inl member
  | case2 directory last double => exact (either member).imp mem_above .inl
  | case3 directory last double single => exact (either member).imp_right .inl
  | case4 directory last double single =>
    rcases either member with before | rfl
    · exact .inl before
    · exact .inr (.inr ⟨List.mem_cons_self, Bool.eq_false_iff.mpr double,
        Bool.eq_false_iff.mpr single⟩)
  | case5 directory other rest more double ih =>
    exact (ih member).imp mem_above (.imp_right fun ⟨later, undotted⟩ =>
      ⟨List.mem_cons_of_mem other later, undotted⟩)
  | case6 directory other rest more double single ih =>
    exact (ih member).imp_right (.imp_right fun ⟨later, undotted⟩ =>
      ⟨List.mem_cons_of_mem other later, undotted⟩)
  | case7 directory other rest more double single ih =>
    rcases ih member with before | empty | ⟨later, undotted⟩
    · rcases either before with earlier | rfl
      · exact .inl earlier
      · exact .inr (.inr ⟨List.mem_cons_self, Bool.eq_false_iff.mpr double,
          Bool.eq_false_iff.mpr single⟩)
    · exact .inr (.inl empty)
    · exact .inr (.inr ⟨List.mem_cons_of_mem other later, undotted⟩)

/-! ## Paths as text -/

theorem append_slash_inj {first second : List Char} (left : '/' ∉ first) (right : '/' ∉ second)
    {rest others : List Char} (same : first ++ '/' :: rest = second ++ '/' :: others) :
    first = second ∧ rest = others := by
  induction first generalizing second with
  | nil =>
    cases second with
    | nil => exact ⟨rfl, by simpa using same⟩
    | cons c second =>
      simp only [List.nil_append, List.cons_append, List.cons.injEq] at same
      exact absurd (same.1 ▸ List.mem_cons_self) right
  | cons c first ih =>
    obtain ⟨here, later⟩ := not_or.mp (mt List.mem_cons.mpr left)
    cases second with
    | nil =>
      simp only [List.nil_append, List.cons_append, List.cons.injEq] at same
      exact absurd same.1.symm here
    | cons d second =>
      simp only [List.cons_append, List.cons.injEq] at same
      obtain ⟨rfl, tails⟩ := same
      obtain ⟨equal, ends⟩ := ih later (fun found => right (List.mem_cons_of_mem _ found)) tails
      exact ⟨equal ▸ rfl, ends⟩

theorem render_hierarchy_cons (segment : List Char) (segments : List (List Char)) :
    (Route.hierarchy (segment :: segments)).render =
      '/' :: segment ++ (Route.hierarchy segments).render := by
  simp [Route.render]

theorem render_hierarchy_filled {segments : List (List Char)} (filled : segments ≠ []) :
    ∃ rest, (Route.hierarchy segments).render = '/' :: rest := by
  obtain ⟨segment, rest, rfl⟩ := List.exists_cons_of_ne_nil filled
  exact ⟨_, render_hierarchy_cons segment rest⟩

/-- A path begins with a closed one, as text, if its directories begin with those of the other. -/
theorem render_closed_isPrefix_iff {directory segments : List (List Char)}
    (start : IsSegmented directory) (clean : IsSegmented segments) (filled : segments ≠ []) :
    (Route.hierarchy (directory ++ [[]])).render <+: (Route.hierarchy segments).render ↔
      directory <+: segments.dropLast := by
  induction directory generalizing segments with
  | nil =>
    obtain ⟨rest, text⟩ := render_hierarchy_filled filled
    rw [text]
    simp [Route.render]
  | cons name directory ih =>
    obtain ⟨segment, rest, rfl⟩ := List.exists_cons_of_ne_nil filled
    have named : '/' ∉ name := start name List.mem_cons_self
    have plain : '/' ∉ segment := clean segment List.mem_cons_self
    obtain ⟨inner, closed⟩ := render_hierarchy_filled (List.append_ne_nil_of_right_ne_nil directory
      (List.cons_ne_nil [] []))
    rw [List.cons_append, render_hierarchy_cons, render_hierarchy_cons]
    by_cases last : rest = []
    · -- The path ends where the other one goes on with a slash.
      subst last
      constructor
      · rintro ⟨more, equal⟩
        have found : '/' ∈ segment := by
          simp only [Route.render, List.flatMap_nil, List.append_nil, List.cons_append,
            List.cons.injEq, true_and] at equal
          rw [← equal]
          simp
        exact absurd found plain
      · intro nothing
        simp at nothing
    · obtain ⟨outer, further⟩ := render_hierarchy_filled last
      have tails := ih (fun other later => start other (List.mem_cons_of_mem _ later))
        (fun other later => clean other (List.mem_cons_of_mem _ later)) last
      rw [List.dropLast_cons_of_ne_nil last, List.cons_prefix_cons, ← tails]
      constructor
      · rintro ⟨more, equal⟩
        simp only [closed, further, List.cons_append, List.append_assoc, List.cons.injEq,
          true_and] at equal
        obtain ⟨same, rests⟩ := append_slash_inj named plain equal
        exact ⟨same, more, by rw [closed, further, List.cons_append, rests]⟩
      · rintro ⟨rfl, more, equal⟩
        exact ⟨more, by rw [List.append_assoc, equal]⟩

end Scratchpad.Url
