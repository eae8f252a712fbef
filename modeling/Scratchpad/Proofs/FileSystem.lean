import Scratchpad.FileSystem
import Scratchpad.Proofs.Path

/-!
# What a walk can see

A walk that never goes up sees nothing but the node from which it starts and what is below. Two
file systems may therefore differ in every other respect: as long as a directory is the same in
both, as far as names and contents can tell, so is everything found from there.
-/

set_option autoImplicit false

namespace Scratchpad

/-! ## Nodes -/

namespace Node

/-- What is below a node, along names. -/
def below? (node : Node) : List (List Char) → Option Node
  | [] => some node
  | name :: names => (node.child? name).bind (·.below? names)

/-- What a node is by itself: a file with what it holds and its permission bits, or a directory. -/
def view : Node → Option (Content × Nat)
  | .file content mode => some (content, mode)
  | .directory _ => none

/-- Nodes that cannot be told apart by what they are and what is below them. -/
def Agrees (first second : Node) : Prop :=
  ∀ names, (first.below? names).map view = (second.below? names).map view

theorem Agrees.refl (node : Node) : node.Agrees node :=
  fun _ => rfl

theorem Agrees.view {first second : Node} (same : first.Agrees second) :
    first.view = second.view := by
  simpa [below?] using same []

theorem Agrees.isDirectory {first second : Node} (same : first.Agrees second) :
    first.isDirectory = second.isDirectory := by
  have seen := same.view
  cases first <;> cases second <;> simp_all [Node.view, Node.isDirectory]

theorem Agrees.text {first second : Node} (same : first.Agrees second) :
    first.text = second.text := by
  have seen := same.view
  cases first <;> cases second <;> simp_all [Node.view, Node.text]

/-- Nodes that agree have entries of the same names, which agree as well. -/
theorem Agrees.child {first second : Node} (same : first.Agrees second) (name : List Char) :
    first.child? name = none ∧ second.child? name = none ∨
      ∃ one other, first.child? name = some one ∧ second.child? name = some other ∧
        one.Agrees other := by
  have present := same [name]
  simp only [below?] at present
  cases left : first.child? name with
  | none =>
    cases right : second.child? name with
    | none => exact .inl ⟨rfl, rfl⟩
    | some other => simp [left, right] at present
  | some one =>
    cases right : second.child? name with
    | none => simp [left, right] at present
    | some other =>
      refine .inr ⟨one, other, rfl, rfl, fun names => ?_⟩
      simpa [below?, left, right] using same (name :: names)

end Node

namespace FileSystem

/-! ## Places -/

/-- Two walks that ended in the same way: with one error, or at nodes that agree. -/
inductive SamePlace : Except FileError Place → Except FileError Place → Prop where
  | error {error} : SamePlace (.error error) (.error error)
  | found {first second above beyond} : first.Agrees second →
      SamePlace (.ok (first :: above)) (.ok (second :: beyond))

theorem step_of_name {place : Place} {part : List Char} (filled : part ≠ []) (moves : part ≠ ['.'])
    (down : part ≠ ['.', '.']) : step place part = enter place part := by
  unfold step
  split
  · exact absurd rfl filled
  · exact absurd rfl moves
  · exact absurd rfl down
  · exact absurd rfl down
  · rfl

theorem enter_same {first second : Node} (same : first.Agrees second) (above beyond : Place)
    (name : List Char) :
    SamePlace (enter (first :: above) name) (enter (second :: beyond) name) := by
  simp only [enter, same.isDirectory]
  split
  · exact .error
  · split
    · exact .error
    · rcases same.child name with ⟨left, right⟩ | ⟨one, other, left, right, agree⟩
      · rw [left, right]
        exact .error
      · rw [left, right]
        exact .found agree

/-- A step that does not go up sees only the node at which it is taken. -/
theorem step_same {first second : Node} (same : first.Agrees second) (above beyond : Place)
    {part : List Char} (down : part ≠ ['.', '.']) :
    SamePlace (step (first :: above) part) (step (second :: beyond) part) := by
  by_cases stays : part = [] ∨ part = ['.']
  · rcases stays with rfl | rfl <;>
    · simp only [step, same.isDirectory]
      split
      · exact .found same
      · exact .error
  · obtain ⟨filled, moves⟩ := not_or.mp stays
    rw [step_of_name filled moves down, step_of_name filled moves down]
    exact enter_same same above beyond part

theorem walk_append (place : Place) (parts others : List (List Char)) :
    walk place (parts ++ others) = walk place parts >>= (walk · others) :=
  List.foldlM_append

/-- A walk that does not go up sees only the node from which it starts. -/
theorem walk_same {parts : List (List Char)} (down : ['.', '.'] ∉ parts)
    {first second : Except FileError Place} (same : SamePlace first second) :
    SamePlace (first >>= (walk · parts)) (second >>= (walk · parts)) := by
  induction parts generalizing first second with
  | nil =>
    cases same with
    | error => exact .error
    | found agree => exact .found agree
  | cons part parts ih =>
    obtain ⟨here, later⟩ := not_or.mp (mt List.mem_cons.mpr down)
    cases same with
    | error => exact .error
    | found agree => exact ih later (step_same agree _ _ (Ne.symm here))

theorem step_nowhere {part : List Char} (down : part ≠ ['.', '.']) :
    step [] part = .error .notFound := by
  by_cases stays : part = [] ∨ part = ['.']
  · rcases stays with rfl | rfl <;> rfl
  · obtain ⟨filled, moves⟩ := not_or.mp stays
    rw [step_of_name filled moves down]
    rfl

theorem step_file {node : Node} (leaf : node.isDirectory = false) (above : Place)
    {part : List Char} (down : part ≠ ['.', '.']) :
    step (node :: above) part = .error .notDirectory := by
  by_cases stays : part = [] ∨ part = ['.']
  · rcases stays with rfl | rfl <;> simp [step, leaf]
  · obtain ⟨filled, moves⟩ := not_or.mp stays
    simp [step_of_name filled moves down, enter, leaf]

/-- An empty part makes no difference when a walk goes on after it. -/
theorem walk_after_empty (place : Place) {parts : List (List Char)} (goes : parts ≠ [])
    (down : ['.', '.'] ∉ parts) : walk place [[]] >>= (walk · parts) = walk place parts := by
  have single : walk place [[]] = step place [] := by simp [walk]
  rw [single]
  obtain ⟨part, rest, rfl⟩ := List.exists_cons_of_ne_nil goes
  obtain ⟨here, -⟩ := not_or.mp (mt List.mem_cons.mpr down)
  cases place with
  | nil =>
    rw [step_nowhere (List.cons_ne_nil _ _).symm, walk, List.foldlM_cons,
      step_nowhere (Ne.symm here)]
    rfl
  | cons node above =>
    cases kind : node.isDirectory with
    | true =>
      simp only [step, kind, ↓reduceIte]
      rfl
    | false =>
      -- The walk fails at the next part, in the same way as at the empty one.
      rw [step_file kind above (List.cons_ne_nil _ _).symm, walk, List.foldlM_cons,
        step_file kind above (Ne.symm here)]
      rfl

/-! ## Paths -/

/-- Where a path leads. Unlike a path that is looked up, an empty one leads to the current
directory, from which every relative path is taken. -/
def locate (files : FileSystem) (path : Path) : Except FileError Place := do
  if path.contains '\x00' then throw .nullInName
  if pathLimit ≤ Text.Utf8.size path then throw .nameTooLong
  let start ← files.origin path
  walk start path.parts

/-- A directory leads to the same in both file systems, as far as it can be seen from there. -/
def SameBelow (root : Path) (first second : FileSystem) : Prop :=
  SamePlace (first.locate root) (second.locate root)

theorem find_eq (files : FileSystem) (path : Path) :
    files.find path =
      if path.isEmpty then .error .notFound
      else files.locate path >>= fun place =>
        match place with
        | node :: _ => .ok node
        | [] => .error .notFound := by
  cases path with
  | nil => rfl
  | cons c rest =>
    simp only [find, locate, List.isEmpty_cons, Bool.false_eq_true, ↓reduceIte]
    split
    · rfl
    · split
      · rfl
      · simp only [bind_assoc]
        rfl

/-- A relative path is walked from where the directory leads. -/
theorem locate_join {path root : Path} (relative : path.isAbsolute = false)
    (down : ['.', '.'] ∉ path.parts) (clean : (root.join path).contains '\x00' = false)
    (short : Text.Utf8.size (root.join path) < pathLimit) (files : FileSystem) :
    files.locate (root.join path) = files.locate root >>= (walk · path.parts) := by
  obtain ⟨base, joined, own, -⟩ := Path.parts_join relative root
  have origin : files.origin (root.join path) = files.origin root := by
    simp only [FileSystem.origin, Path.isAbsolute_join relative]
  obtain ⟨rest, longer⟩ := Path.join_eq_append relative root
  have clear : root.contains '\x00' = false := by
    simp only [longer, List.contains_append, Bool.or_eq_false_iff] at clean
    exact clean.1
  have fits : Text.Utf8.size root < pathLimit := by
    rw [longer, Text.Utf8.size_append] at short
    omega
  simp only [locate, clean, clear, Nat.not_le.mpr short, Nat.not_le.mpr fits, origin, joined,
    walk_append, bind_assoc, ↓reduceIte, Bool.false_eq_true]
  rcases own with same | slash
  · rw [same]
  · have skipped : ∀ place, walk place [[]] >>= (walk · path.parts) = walk place path.parts :=
      fun place => walk_after_empty place (Text.split_ne_nil _ path) down
    simp only [slash, walk_append, bind_assoc, skipped]

theorem SameBelow.locate_join {path root : Path} {first second : FileSystem}
    (same : SameBelow root first second) (relative : path.isAbsolute = false)
    (down : ['.', '.'] ∉ path.parts) :
    SamePlace (first.locate (root.join path)) (second.locate (root.join path)) := by
  cases null : (root.join path).contains '\x00' with
  | true =>
    simp only [locate, null]
    exact .error
  | false =>
    cases Nat.lt_or_ge (Text.Utf8.size (root.join path)) pathLimit with
    | inl short =>
      rw [FileSystem.locate_join relative down null short,
        FileSystem.locate_join relative down null short]
      exact walk_same down same
    | inr long =>
      simp only [locate, null, long]
      exact .error

theorem readText_of_locate {first second : FileSystem} {path : Path}
    (same : SamePlace (first.locate path) (second.locate path)) :
    first.readText path = second.readText path := by
  simp only [readText, find_eq]
  split
  · rfl
  · generalize first.locate path = one at same
    generalize second.locate path = other at same
    cases same with
    | error => rfl
    | found agree => exact agree.text

end FileSystem

end Scratchpad
