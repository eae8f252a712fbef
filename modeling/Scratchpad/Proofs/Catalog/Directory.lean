import Scratchpad.Catalog.Source
import Scratchpad.Proofs.FileSystem

/-!
# Sources in a directory

A source in a directory reads nothing outside of it. This is a statement about two runs: where
two file systems agree on the directory and on what is below, no sequence of calls can tell them
apart, whatever the paths are and whatever the manifest says.
-/

set_option autoImplicit false

namespace Scratchpad.Catalog

/-! ## Paths that pass -/

theorem of_relativePath {path : String} {relative : List Char}
    (passed : relativePath path = .ok relative) :
    relative = Text.trimChars path.toList ∧ relative ≠ [] ∧ escapes relative = false := by
  simp only [relativePath] at passed
  split at passed
  · cases passed
  · rename_i inside
    cases passed
    simp only [Bool.or_eq_true, not_or, Bool.not_eq_true, List.isEmpty_eq_false_iff] at inside
    exact ⟨rfl, inside.1, inside.2⟩

theorem refused_relativePath {path : String} {error : Error}
    (refused : relativePath path = .error error) : error = .invalidPath path := by
  simp only [relativePath] at refused
  split at refused
  · cases refused
    rfl
  · cases refused

theorem relative_of_not_escapes {path : List Char} (inside : escapes path = false) :
    Path.isAbsolute path = false := by
  simp only [escapes, Bool.or_eq_false_iff] at inside
  exact inside.1.1.1

/-- The segments that are looked at are cut at backslashes too, the parts of a path are not. Two
dots have neither, so that they are found all the same. -/
theorem down_of_not_escapes {path : List Char} (inside : escapes path = false) :
    ['.', '.'] ∉ Path.parts path := by
  intro member
  have segment : ['.', '.'] ∈ Text.split (fun c => c == '/' || c == '\\') path :=
    Text.mem_split_finer (fun c slash => by simp [slash]) member (by simp)
  have seen : (Text.split (fun c => c == '/' || c == '\\') path).any (· == ['.', '.']) = true :=
    List.any_eq_true.mpr ⟨_, segment, by decide⟩
  simp only [escapes, Bool.or_eq_false_iff] at inside
  rw [inside.2] at seen
  cases seen

/-! ## Calls -/

/-- What a source can be asked for: the text of a resource, its catalog, or the program of an
example. -/
inductive Query where
  | text (path : String)
  | catalog
  | program (entry : Example)
  deriving DecidableEq, Repr

/-- What a source answers. -/
inductive Reply where
  | text (result : Except Error String)
  | catalog (result : Except Error (List Example))
  deriving Repr

def Source.reply (world : World) (source : Source) : Query → Reply
  | .text path => .text (source.fetch world path)
  | .catalog => .catalog (source.catalog world)
  | .program entry => .text (source.fetch world entry.file)

theorem Source.reply_of_fetch {first second : World} {source : Source}
    (same : ∀ path, source.fetch first path = source.fetch second path) (query : Query) :
    source.reply first query = source.reply second query := by
  cases query with
  | text path => rw [reply, reply, same]
  | catalog => rw [reply, reply, catalog, catalog, same]
  | program entry => rw [reply, reply, same]

theorem Source.fetch_directory_of_refused {path : String} {error : Error}
    (refused : relativePath path = .error error) (world : World) (root : Path) :
    fetch world (.directory root) path = .error (.invalidPath path) := by
  rw [fetch, refused, refused_relativePath refused]
  rfl

theorem Source.fetch_directory_of_passed {path : String} {relative : List Char}
    (passed : relativePath path = .ok relative) (world : World) (root : Path) :
    fetch world (.directory root) path = readBelow world.files root relative := by
  rw [fetch, passed]
  rfl

theorem Source.fetch_directory_same {first second : World} {root : Path}
    (same : first.files.SameBelow root second.files) (path : String) :
    fetch first (.directory root) path = fetch second (.directory root) path := by
  cases passed : relativePath path with
  | error error => rw [fetch_directory_of_refused passed, fetch_directory_of_refused passed]
  | ok relative =>
    obtain ⟨-, -, inside⟩ := of_relativePath passed
    have found := same.locate_join (relative_of_not_escapes inside) (down_of_not_escapes inside)
    rw [fetch_directory_of_passed passed, fetch_directory_of_passed passed, readBelow, readBelow,
      FileSystem.readText_of_locate found]

/-- A source in a directory answers from what is in the directory and from nothing else. A path
that passes is the directory with further components that never lead up, and one that does not
pass is refused in every world. -/
theorem directory_confined (root : Path) :
    (∀ first second : World, first.files.SameBelow root second.files → ∀ queries : List Query,
      queries.map (Source.reply first (.directory root)) =
        queries.map (Source.reply second (.directory root))) ∧
    (∀ path relative, relativePath path = .ok relative →
      relative = Text.trimChars path.toList ∧
      ∃ below, (root.join relative).components = root.components ++ below ∧
        ∀ component ∈ below, component.staysBelow = true) ∧
    (∀ path error, relativePath path = .error error → ∀ world : World,
      Source.fetch world (.directory root) path = .error (.invalidPath path)) := by
  refine ⟨fun first second same queries => ?_, fun path relative passed => ?_,
    fun path error refused world => Source.fetch_directory_of_refused refused world root⟩
  · exact List.map_congr_left fun query _ =>
      Source.reply_of_fetch (Source.fetch_directory_same same) query
  · obtain ⟨trimmed, -, inside⟩ := of_relativePath passed
    exact ⟨trimmed, Path.components_join (relative_of_not_escapes inside)
      (down_of_not_escapes inside) root⟩

/-- An empty example in a directory, and a secret beside the directory. -/
def worldWithSecret (secret : List UInt8) : World where
  files :=
    { tree := .directory
        [(['e'], .directory [(['a'], .file (.bytes []) 0)]), (['s'], .file (.bytes secret) 0)]
      current := [] }
  web := Web.unreachable

/-- The secret is there to be read, and no call reveals it. -/
theorem directory_confined_beside_secret :
    (worldWithSecret [0x61]).files.readText ['s'] = .ok "a" ∧
      (worldWithSecret [0x62]).files.readText ['s'] = .ok "b" ∧
      Source.fetch (worldWithSecret [0x61]) (.directory ['e']) " a" = .ok "" ∧
      (∀ queries : List Query,
        queries.map (Source.reply (worldWithSecret [0x61]) (.directory ['e'])) =
          queries.map (Source.reply (worldWithSecret [0x62]) (.directory ['e']))) ∧
      (∃ below, Path.components ['e', '/', 'a'] = Path.components ['e'] ++ below ∧
        ∀ component ∈ below, component.staysBelow = true) ∧
      ∀ world, Source.fetch world (.directory ['e']) "../s" = .error (.invalidPath "../s") :=
  ⟨rfl, rfl, rfl, (directory_confined ['e']).1 _ _ (.found (Node.Agrees.refl _)),
    ((directory_confined ['e']).2.1 " a" ['a'] rfl).2, (directory_confined ['e']).2.2 "../s" _ rfl⟩

end Scratchpad.Catalog
