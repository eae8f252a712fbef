import Scratchpad.Proofs.FileSystem

/-!
# Files put in place

What is found in a tree after a file has been put somewhere: the file at its own place, a directory
at every place on the way, nothing beyond it, and elsewhere what was there before. A walk along
names finds what is below, as long as the names are not too long.
-/

set_option autoImplicit false

namespace Scratchpad

/-! ## Trees -/

namespace Node

/-- What the file along names holds, if there is a file. -/
def content? (node : Node) (names : List (List Char)) : Option Content :=
  ((node.below? names).bind view).map (·.1)

theorem of_content? {node : Node} {names : List (List Char)} {content : Content}
    (holds : node.content? names = some content) :
    ∃ mode, node.below? names = some (.file content mode) := by
  unfold content? at holds
  cases found : node.below? names with
  | none => simp [found] at holds
  | some reached =>
    cases reached with
    | directory entries => simp [found, view] at holds
    | file own mode =>
      simp only [found, view, Option.bind_some, Option.map_some, Option.some.injEq] at holds
      exact ⟨mode, holds ▸ rfl⟩

theorem content?_of_text {node reached : Node} {names : List (List Char)} {text : String}
    (leads : node.below? names = some reached) (read : reached.text = .ok text) :
    ∃ content, node.content? names = some content := by
  cases reached with
  | directory entries => cases read
  | file content mode => exact ⟨content, by simp [content?, leads, view]⟩

theorem content?_cons (node : Node) (name : List Char) (names : List (List Char)) :
    node.content? (name :: names) = (node.child? name).bind (·.content? names) := by
  cases child : node.child? name <;> simp [content?, below?, child]

theorem content?_empty (names : List (List Char)) : (directory []).content? names = none := by
  cases names with
  | nil => rfl
  | cons name names =>
    rw [content?_cons]
    rfl

theorem lookup_filter_ne {name other : List Char} (apart : other ≠ name)
    (entries : List (List Char × Node)) :
    (entries.filter (·.1 != name)).lookup other = entries.lookup other := by
  induction entries with
  | nil => rfl
  | cons entry entries ih =>
    obtain ⟨key, node⟩ := entry
    by_cases same : key = name
    · have skipped : (other == key) = false := by simpa [same] using apart
      simp [same, ih, List.lookup_cons, same ▸ skipped]
    · simp [same, ih, List.lookup_cons]

theorem child?_put (tree : Node) (name : List Char) (entry : Node) (other : List Char) :
    (tree.put name entry).child? other =
      if other = name then some entry else tree.child? other := by
  by_cases same : other = name
  · cases tree <;> simp [put, child?, same]
  · have skipped : (other == name) = false := by simpa using same
    cases tree <;> simp [put, child?, same, List.lookup_cons, skipped, lookup_filter_ne same]

theorem isDirectory_put (tree : Node) (name : List Char) (entry : Node) :
    (tree.put name entry).isDirectory = true := by
  cases tree <;> rfl

theorem content?_put_nil (tree : Node) (name : List Char) (entry : Node) :
    (tree.put name entry).content? [] = none := by
  cases tree <;> rfl

section Place

variable (content : Content) (mode : Nat) (names : List (List Char)) (tree : Node)

theorem place_file_nil : (file content mode).place [] tree = file content mode :=
  rfl

theorem content?_place_self : ((file content mode).place names tree).content? names =
    some content := by
  induction names generalizing tree with
  | nil => rfl
  | cons name names ih => simp [place, content?_cons, child?_put, ih]

/-- On the way to a file there are directories, and beyond it there is nothing. -/
theorem content?_place_along {other : List (List Char)} (along : names <+: other ∨ other <+: names)
    (apart : other ≠ names) : ((file content mode).place names tree).content? other = none := by
  induction names generalizing tree other with
  | nil =>
    cases other with
    | nil => exact absurd rfl apart
    | cons name rest =>
      rw [place_file_nil, content?_cons]
      rfl
  | cons name names ih =>
    cases other with
    | nil => exact content?_put_nil _ _ _
    | cons first rest =>
      simp only [List.cons_prefix_cons] at along
      obtain ⟨rfl, within⟩ : first = name ∧ (names <+: rest ∨ rest <+: names) := by
        rcases along with ⟨rfl, shorter⟩ | ⟨rfl, longer⟩
        · exact ⟨rfl, .inl shorter⟩
        · exact ⟨rfl, .inr longer⟩
      rw [place, content?_cons, child?_put, if_pos rfl, Option.bind_some]
      exact ih _ within fun same => apart (same ▸ rfl)

theorem content?_place_apart {other : List (List Char)} (beyond : ¬ names <+: other)
    (before : ¬ other <+: names) :
    ((file content mode).place names tree).content? other = tree.content? other := by
  induction names generalizing tree other with
  | nil => exact absurd List.nil_prefix beyond
  | cons name names ih =>
    cases other with
    | nil => exact absurd List.nil_prefix before
    | cons first rest =>
      rw [place, content?_cons, child?_put, content?_cons]
      split
      · rename_i same
        subst same
        have deeper := ih ((tree.child? first).getD (directory []))
          (fun shorter => beyond (List.cons_prefix_cons.mpr ⟨rfl, shorter⟩))
          (fun longer => before (List.cons_prefix_cons.mpr ⟨rfl, longer⟩))
        rw [Option.bind_some, deeper]
        -- Where there was no entry, the file goes into a new directory with nothing else in it.
        cases tree.child? first with
        | none => exact content?_empty rest
        | some child => rfl
      · rfl

end Place

end Node

/-! ## Walks along names -/

namespace FileSystem

theorem of_enter {node : Node} {above place : Place} {name : List Char}
    (entered : enter (node :: above) name = .ok place) :
    ∃ entry, node.child? name = some entry ∧ place = entry :: node :: above := by
  simp only [enter] at entered
  split at entered
  · cases entered
  · split at entered
    · cases entered
    · split at entered
      · rename_i entry found
        cases entered
        exact ⟨entry, found, rfl⟩
      · cases entered

theorem enter_child {node entry : Node} {name : List Char} (found : node.child? name = some entry)
    (short : Text.Utf8.size name ≤ nameLimit) (above : Place) :
    enter (node :: above) name = .ok (entry :: node :: above) := by
  have directory : node.isDirectory = true := by
    cases node with
    | file content mode => cases found
    | directory entries => rfl
  simp [enter, directory, Nat.not_lt.mpr short, found]

/-- Names that stand for entries, and not for the directory or its parent. -/
def AreNames (names : List (List Char)) : Prop :=
  ∀ name ∈ names, name ≠ [] ∧ name ≠ ['.'] ∧ name ≠ ['.', '.']

theorem step_of_areNames {name : List Char} {names : List (List Char)}
    (proper : AreNames (name :: names)) (place : Place) : step place name = enter place name := by
  obtain ⟨filled, moves, down⟩ := proper name List.mem_cons_self
  exact step_of_name filled moves down

theorem below?_of_walk {names : List (List Char)} (proper : AreNames names) {node found : Node}
    {above beyond : Place} (walked : walk (node :: above) names = .ok (found :: beyond)) :
    node.below? names = some found := by
  induction names generalizing node above with
  | nil =>
    cases walked
    rfl
  | cons name names ih =>
    rw [walk, List.foldlM_cons, step_of_areNames proper] at walked
    cases entered : enter (node :: above) name with
    | error error => simp [entered, bind, Except.bind] at walked
    | ok place =>
      obtain ⟨entry, child, rfl⟩ := of_enter entered
      rw [entered] at walked
      rw [Node.below?, child, Option.bind_some]
      exact ih (fun other later => proper other (List.mem_cons_of_mem _ later)) walked

theorem walk_of_below? {names : List (List Char)} (proper : AreNames names)
    (short : ∀ name ∈ names, Text.Utf8.size name ≤ nameLimit) {node found : Node}
    (leads : node.below? names = some found) (above : Place) :
    ∃ beyond, walk (node :: above) names = .ok (found :: beyond) := by
  induction names generalizing node above with
  | nil =>
    cases leads
    exact ⟨above, rfl⟩
  | cons name names ih =>
    rw [Node.below?, Option.bind_eq_some_iff] at leads
    obtain ⟨entry, child, further⟩ := leads
    rw [walk, List.foldlM_cons, step_of_areNames proper,
      enter_child child (short name List.mem_cons_self)]
    exact ih (fun other later => proper other (List.mem_cons_of_mem _ later))
      (fun other later => short other (List.mem_cons_of_mem _ later)) further _

end FileSystem

end Scratchpad
