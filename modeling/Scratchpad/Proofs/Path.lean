import Scratchpad.Path
import Scratchpad.Proofs.Text.Split

/-!
# Joined paths

The parts and components of a relative path taken from a directory. A slash at the end of the
directory makes no difference to the components, and neither does an empty directory, which is
the one case in which a leading dot of the path stays visible.
-/

set_option autoImplicit false

namespace Scratchpad.Path

theorem isAbsolute_join {path : Path} (relative : path.isAbsolute = false) (directory : Path) :
    (directory.join path).isAbsolute = directory.isAbsolute := by
  cases directory with
  | nil =>
    rw [join, relative]
    exact relative
  | cons c rest =>
    simp only [join, relative]
    split
    · rename_i empty
      cases empty
    · split <;> rfl

theorem join_eq_append {path : Path} (relative : path.isAbsolute = false) (directory : Path) :
    ∃ rest, directory.join path = directory ++ rest := by
  cases directory with
  | nil => exact ⟨path, by simp [join]⟩
  | cons c rest =>
    simp only [join, relative, List.isEmpty_cons, Bool.or_self, Bool.false_eq_true, ↓reduceIte]
    split
    · exact ⟨path, rfl⟩
    · exact ⟨'/' :: path, rfl⟩

theorem join_ne_nil {path : Path} (filled : path ≠ []) (directory : Path) :
    directory.join path ≠ [] := by
  unfold join
  split
  · exact filled
  · split <;> simp [filled]

theorem mem_join {directory path : Path} {c : Char} (member : c ∈ directory.join path) :
    c ∈ directory ∨ c = '/' ∨ c ∈ path := by
  unfold join at member
  split at member
  · exact .inr (.inr member)
  · split at member
    · rcases List.mem_append.mp member with early | late
      · exact .inl early
      · exact .inr (.inr late)
    · rcases List.mem_append.mp member with early | late
      · exact .inl early
      · exact .inr (List.mem_cons.mp late)

theorem parts_append_slash (left right : Path) :
    parts (left ++ '/' :: right) = parts left ++ parts right :=
  Text.split_append_separator left (by decide) right

/-- The parts of the directory, without an empty one at the end, come before those of the path. -/
theorem parts_join {path : Path} (relative : path.isAbsolute = false) (directory : Path) :
    ∃ base, (directory.join path).parts = base ++ path.parts ∧
      (directory.parts = base ∨ directory.parts = base ++ [[]]) ∧ (directory = [] ↔ base = []) := by
  by_cases empty : directory = []
  · subst empty
    exact ⟨[], by simp [join], .inr rfl, by simp⟩
  · have filled : directory.isEmpty = false := by simpa using empty
    by_cases slash : directory.getLast? = some '/'
    · obtain ⟨front, rfl⟩ := List.getLast?_eq_some_iff.mp slash
      refine ⟨parts front, ?_, .inr (parts_append_slash front []), ?_⟩
      · simp only [join, relative, filled, slash, BEq.rfl, Bool.or_self, Bool.false_eq_true,
          ↓reduceIte, List.append_assoc, List.singleton_append]
        exact parts_append_slash front path
      · simp [parts, Text.split_ne_nil]
    · refine ⟨directory.parts, ?_, .inl rfl, ?_⟩
      · simp only [join, relative, filled, beq_iff_eq, slash, Bool.or_self, Bool.false_eq_true,
          ↓reduceIte]
        exact parts_append_slash directory path
      · simp [empty, parts, Text.split_ne_nil]

/-- A component that leads neither to the root nor upwards. -/
def Component.staysBelow : Component → Bool
  | .current | .normal _ => true
  | .root | .parent => false

theorem staysBelow_of_component? {part : List Char} {component : Component}
    (inside : part ≠ ['.', '.']) (stands : component? part = some component) :
    component.staysBelow = true := by
  unfold component? at stands
  split at stands
  · cases stands
  · cases stands
  · exact absurd rfl inside
  · cases stands
    rfl

/-- A relative path without double dots stays below the directory from which it is taken. -/
theorem components_join {path : Path} (relative : path.isAbsolute = false)
    (inside : ['.', '.'] ∉ path.parts) (directory : Path) :
    ∃ below, (directory.join path).components = directory.components ++ below ∧
      ∀ component ∈ below, component.staysBelow = true := by
  have lower : ∀ component ∈ path.parts.filterMap component?, component.staysBelow = true := by
    intro component member
    obtain ⟨part, present, stands⟩ := List.mem_filterMap.mp member
    exact staysBelow_of_component? (fun equal => inside (equal ▸ present)) stands
  obtain ⟨base, joined, own, filled⟩ := parts_join relative directory
  have kept : directory.parts.filterMap component? = base.filterMap component? := by
    rcases own with same | slash
    · rw [same]
    · rw [slash, List.filterMap_append]
      simp [component?]
  by_cases empty : directory = []
  · subst empty
    refine ⟨path.components, by simp [join, components, parts, Text.split, component?,
      isAbsolute], ?_⟩
    intro component member
    simp only [components, relative, Bool.false_eq_true, ↓reduceIte] at member
    split at member
    · rcases List.mem_cons.mp member with rfl | later
      · rfl
      · exact lower component later
    · exact lower component member
  · refine ⟨path.parts.filterMap component?, ?_, lower⟩
    have start : (directory.join path).parts.head? = directory.parts.head? := by
      obtain ⟨first, rest, same⟩ := List.exists_cons_of_ne_nil (mt filled.mpr empty)
      rcases own with equal | equal <;> simp [joined, equal, same]
    simp only [components, isAbsolute_join relative, start]
    rw [joined, List.filterMap_append, kept]
    split
    · rfl
    · split <;> rfl

end Scratchpad.Path
