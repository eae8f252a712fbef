import Scratchpad.Evaluator.Command
import Scratchpad.Proofs.Text.Blank
import Scratchpad.Proofs.Text.Split

/-!
# Looking commands up

A command that is a path is taken as it is, whatever the search path. A name is looked up in the
entries of the search path, and the first one that has a file to execute wins; so entries that come
later, or have no such file, make no difference to a command that is found.
-/

set_option autoImplicit false

namespace Scratchpad

/-- A path leads to a file that someone may execute. -/
def FileSystem.Runs (files : FileSystem) (path : Path) : Prop :=
  ∃ content mode, files.find path = .ok (.file content mode) ∧ mode &&& 0o111 ≠ 0

theorem FileSystem.isExecutable_iff {files : FileSystem} {path : Path} :
    files.isExecutable path = true ↔ files.Runs path := by
  unfold isExecutable Runs
  cases files.find path with
  | error error => simp
  | ok node =>
    cases node with
    | directory entries => simp [Node.executable, Except.isOk, Except.toBool]
    | file content mode =>
      by_cases nobody : mode &&& 0o111 = 0
      · simp [Node.executable, Except.isOk, Except.toBool, nobody]
      · simp only [Node.executable, beq_eq_false_iff_ne.mpr nobody]
        exact iff_of_true rfl ⟨content, mode, rfl, nobody⟩

namespace Evaluator.Command

open Text (Trims)

/-! ## Search paths -/

/-- The entries of a search path. -/
def entries (searchPath : List UInt8) : List (List UInt8) :=
  Text.split (· == 0x3A) searchPath

/-- The search path with the given entries. -/
def ofEntries (entries : List (List UInt8)) : List UInt8 :=
  [0x3A].intercalate entries

theorem entries_ofEntries {list : List (List UInt8)} (filled : list ≠ [])
    (single : ∀ entry ∈ list, 0x3A ∉ entry) : entries (ofEntries list) = list := by
  have whole : ∀ entry ∈ list, entries entry = [entry] := by
    intro entry member
    refine Text.split_eq_singleton fun byte inside => ?_
    exact beq_false_of_ne fun colon => single entry member (colon ▸ inside)
  induction list with
  | nil => exact absurd rfl filled
  | cons entry list ih =>
    obtain ⟨_, later⟩ := List.forall_mem_cons.mp single
    obtain ⟨here, others⟩ := List.forall_mem_cons.mp whole
    cases list with
    | nil => simpa [ofEntries, List.intercalate] using here
    | cons next list =>
      have joined : ofEntries (entry :: next :: list) =
          entry ++ 0x3A :: ofEntries (next :: list) := by
        simp [ofEntries, List.intercalate]
      rw [joined, entries, Text.split_append_separator entry rfl]
      change entries entry ++ entries (ofEntries (next :: list)) = _
      rw [here, ih (List.cons_ne_nil next list) later others]
      rfl

/-- An entry of a search path has a file of the given name, at a path. -/
def Has (files : FileSystem) (name : Path) (entry : List UInt8) (path : Path) : Prop :=
  ∃ directory, Text.Utf8.decode entry = .ok directory ∧ path = Path.join directory name ∧
    files.Runs path

/-- The file of the given name that an entry of a search path has. -/
def file? (files : FileSystem) (name : Path) (entry : List UInt8) : Option Path :=
  ((Text.Utf8.decode entry).toOption.map (Path.join · name)).filter files.isExecutable

theorem file?_eq_some_iff {files : FileSystem} {name path : Path} {entry : List UInt8} :
    file? files name entry = some path ↔ Has files name entry path := by
  unfold file? Has
  cases Text.Utf8.decode entry with
  | error error => simp [Except.toOption]
  | ok directory =>
    simp only [Except.toOption, Option.map_some, Option.filter_eq_some_iff, Option.some.injEq,
      FileSystem.isExecutable_iff, Except.ok.injEq]
    constructor
    · intro ⟨same, runs⟩
      exact ⟨directory, rfl, same.symm, runs⟩
    · intro ⟨other, here, same, runs⟩
      exact ⟨here ▸ same.symm, runs⟩

theorem search_directories (files : FileSystem) (name : Path) (searchPath : List UInt8) :
    search files name (directories searchPath) =
      (entries searchPath).findSome? (file? files name) := by
  unfold directories
  change search files name ((entries searchPath).filterMap _) = _
  generalize entries searchPath = list
  induction list with
  | nil => rfl
  | cons entry list ih =>
    cases decoded : (Text.Utf8.decode entry).toOption with
    | none =>
      have nothing : file? files name entry = none := by simp [file?, decoded]
      simp only [List.filterMap_cons, decoded, List.findSome?_cons, nothing]
      exact ih
    | some directory =>
      simp only [List.filterMap_cons, decoded, List.findSome?_cons, file?, Option.map_some, search,
        List.map_cons, List.find?_cons, Option.filter_some]
      cases files.isExecutable (Path.join directory name) with
      | true => rfl
      | false => exact ih

/-- The first entry of a search path that has a file of the given name has it at the path. -/
def HasFirst (files : FileSystem) (name : Path) (searchPath : List UInt8) (path : Path) : Prop :=
  ∃ before entry after, entries searchPath = before ++ entry :: after ∧ Has files name entry path ∧
    ∀ other ∈ before, ∀ elsewhere, ¬ Has files name other elsewhere

theorem file?_eq_none_iff {files : FileSystem} {name : Path} {entry : List UInt8} :
    file? files name entry = none ↔ ∀ path, ¬ Has files name entry path := by
  simp only [Option.eq_none_iff_forall_ne_some, ne_eq, file?_eq_some_iff]

theorem search_eq_some_iff {files : FileSystem} {name executable : Path}
    {searchPath : List UInt8} :
    search files name (directories searchPath) = some executable ↔
      HasFirst files name searchPath executable := by
  simp only [search_directories, List.findSome?_eq_some_iff, file?_eq_some_iff, file?_eq_none_iff,
    HasFirst]

theorem search_eq_none_iff {files : FileSystem} {name : Path} {searchPath : List UInt8} :
    search files name (directories searchPath) = none ↔
      ∀ entry ∈ entries searchPath, ∀ path, ¬ Has files name entry path := by
  simp only [search_directories, List.findSome?_eq_none_iff, file?_eq_none_iff]

/-- What the first entry with a file gives does not depend on entries behind it, and not on entries
without the file. -/
theorem search_inserted {files : FileSystem} {name executable : Path}
    {before between after : List (List UInt8)} (filled : before ++ after ≠ [])
    (single : ∀ entry ∈ before ++ between ++ after, 0x3A ∉ entry)
    (harmless : after = [] ∨ ∀ entry ∈ between, ∀ path, ¬ Has files name entry path)
    (found : search files name (directories (ofEntries (before ++ after))) = some executable) :
    search files name (directories (ofEntries (before ++ between ++ after))) = some executable := by
  have fewer : ∀ entry ∈ before ++ after, 0x3A ∉ entry := by
    intro entry member
    refine single entry ?_
    rcases List.mem_append.mp member with early | late
    · exact List.mem_append_left after (List.mem_append_left between early)
    · exact List.mem_append_right _ late
  have more : before ++ between ++ after ≠ [] := by
    intro empty
    rw [List.append_assoc, List.append_eq_nil_iff, List.append_eq_nil_iff] at empty
    exact filled (by rw [empty.1, empty.2.2]; rfl)
  rw [search_directories, entries_ofEntries filled fewer, List.findSome?_append] at found
  rw [search_directories, entries_ofEntries more single, List.append_assoc, List.findSome?_append,
    List.findSome?_append]
  rcases harmless with rfl | nowhere
  · have early : before.findSome? (file? files name) = some executable := by simpa using found
    rw [early]
    rfl
  · have nothing : between.findSome? (file? files name) = none := by
      refine List.findSome?_eq_none_iff.mpr fun entry member => ?_
      exact file?_eq_none_iff.mpr (nowhere entry member)
    rw [nothing, Option.none_or]
    exact found

/-! ## Commands -/

/-- How a command is resolved, given its text without the blanks around it. -/
structure Resolved (files : FileSystem) (command : String) (trimmed : Path) : Prop where
  trims : Trims command.toList trimmed
  empty : ∀ searchPath,
    (∃ reason, resolve files searchPath command = .error (.load reason)) ↔ trimmed = []
  /-- A path is taken as it is, whatever the search path. -/
  path : trimmed ≠ [] → trimmed.isAbsolute = true ∨ 1 < trimmed.components.length →
    ∀ searchPath,
      (files.Runs trimmed → resolve files searchPath command = .ok trimmed) ∧
      (¬ files.Runs trimmed →
        resolve files searchPath command = .error (.notFound (String.ofList trimmed)))
  /-- A name is found in the first entry that has it, if there is a search path. -/
  found : trimmed ≠ [] → ¬ (trimmed.isAbsolute = true ∨ 1 < trimmed.components.length) →
    ∀ searchPath executable, resolve files searchPath command = .ok executable ↔
      ∃ list, searchPath = some list ∧ HasFirst files trimmed list executable
  missing : trimmed ≠ [] → ¬ (trimmed.isAbsolute = true ∨ 1 < trimmed.components.length) →
    ∀ searchPath, resolve files searchPath command =
        .error (.notFound (String.ofList trimmed)) ↔
      searchPath = none ∨ ∃ list, searchPath = some list ∧
        ∀ entry ∈ entries list, ∀ path, ¬ Has files trimmed entry path
  /-- Entries without the file may stand anywhere, and any entries at the end. -/
  inserted : ∀ {before between after executable}, before ++ after ≠ [] →
    (∀ entry ∈ before ++ between ++ after, 0x3A ∉ entry) →
    (after = [] ∨ ∀ entry ∈ between, ∀ path, ¬ Has files trimmed entry path) →
    resolve files (some (ofEntries (before ++ after))) command = .ok executable →
    resolve files (some (ofEntries (before ++ between ++ after))) command = .ok executable
  /-- What is loaded has the name of the command as it was given. -/
  named : ∀ searchPath args loaded, load files searchPath command args = .ok loaded ↔
    ∃ executable, resolve files searchPath command = .ok executable ∧
      loaded = { name := command, executable, args }

theorem isPath_iff {command : Path} :
    isPath command = true ↔ command.isAbsolute = true ∨ 1 < command.components.length := by
  simp [isPath]

theorem isPath_eq_false {command : Path}
    (name : ¬ (command.isAbsolute = true ∨ 1 < command.components.length)) :
    isPath command = false :=
  Bool.eq_false_iff.mpr (mt isPath_iff.mp name)

section Trimmed

variable {command : String} {trimmed : Path} (trims : Trims command.toList trimmed)
  (files : FileSystem) (searchPath : Option (List UInt8))
include trims

theorem resolve_empty (empty : trimmed = []) :
    resolve files searchPath command = .error (.load "evaluator command is empty") := by
  rw [resolve, ← trims.eq_trimChars, empty]

theorem resolve_path (filled : trimmed ≠ []) (path : isPath trimmed = true) :
    resolve files searchPath command =
      if files.isExecutable trimmed then .ok trimmed
      else .error (.notFound (String.ofList trimmed)) := by
  rw [resolve, ← trims.eq_trimChars]
  split
  · exact absurd rfl filled
  · rw [if_pos path]

theorem resolve_name (filled : trimmed ≠ []) (name : isPath trimmed = false) :
    resolve files searchPath command =
      (searchPath.bind fun list => search files trimmed (directories list)).elim
        (.error (.notFound (String.ofList trimmed))) .ok := by
  rw [resolve, ← trims.eq_trimChars]
  split
  · exact absurd rfl filled
  · rw [name, if_neg Bool.false_ne_true]
    cases searchPath.bind fun list => search files trimmed (directories list) <;> rfl

theorem resolve_eq_load_iff :
    (∃ reason, resolve files searchPath command = .error (.load reason)) ↔ trimmed = [] := by
  refine ⟨fun ⟨reason, failed⟩ => ?_, fun empty => ⟨_, resolve_empty trims files searchPath empty⟩⟩
  by_cases filled : trimmed = []
  · exact filled
  cases path : isPath trimmed with
  | true =>
    rw [resolve_path trims files searchPath filled path] at failed
    split at failed <;> cases failed
  | false =>
    rw [resolve_name trims files searchPath filled path] at failed
    generalize searchPath.bind _ = result at failed
    cases result <;> cases failed

theorem resolve_name_eq_ok_iff (filled : trimmed ≠ []) (name : isPath trimmed = false)
    (executable : Path) :
    resolve files searchPath command = .ok executable ↔
      ∃ list, searchPath = some list ∧ HasFirst files trimmed list executable := by
  rw [resolve_name trims files searchPath filled name]
  simp only [← search_eq_some_iff, ← Option.bind_eq_some_iff]
  cases searchPath.bind fun list => search files trimmed (directories list) <;> simp

theorem resolve_name_eq_notFound_iff (filled : trimmed ≠ []) (name : isPath trimmed = false) :
    resolve files searchPath command = .error (.notFound (String.ofList trimmed)) ↔
      searchPath = none ∨ ∃ list, searchPath = some list ∧
        ∀ entry ∈ entries list, ∀ path, ¬ Has files trimmed entry path := by
  rw [resolve_name trims files searchPath filled name]
  cases searchPath with
  | none => simp
  | some list =>
    simp only [← search_eq_none_iff, Option.bind_some, Option.some.injEq, exists_eq_left',
      reduceCtorEq, false_or]
    cases search files trimmed (directories list) <;> simp

theorem resolve_inserted {before between after : List (List UInt8)} {executable : Path}
    (nonempty : before ++ after ≠ [])
    (single : ∀ entry ∈ before ++ between ++ after, 0x3A ∉ entry)
    (harmless : after = [] ∨ ∀ entry ∈ between, ∀ path, ¬ Has files trimmed entry path)
    (found : resolve files (some (ofEntries (before ++ after))) command = .ok executable) :
    resolve files (some (ofEntries (before ++ between ++ after))) command = .ok executable := by
  by_cases filled : trimmed = []
  · rw [resolve_empty trims files _ filled] at found
    cases found
  cases path : isPath trimmed with
  | true =>
    rw [resolve_path trims files _ filled path] at found ⊢
    exact found
  | false =>
    rw [resolve_name trims files _ filled path, Option.bind_some] at found ⊢
    cases earlier : search files trimmed (directories (ofEntries (before ++ after))) with
    | none =>
      rw [earlier] at found
      cases found
    | some path =>
      rw [search_inserted nonempty single harmless earlier, ← earlier]
      exact found

end Trimmed

theorem load_eq_ok_iff {files : FileSystem} {searchPath : Option (List UInt8)} {name : String}
    {args : List String} {loaded : Command} :
    load files searchPath name args = .ok loaded ↔
      ∃ executable, resolve files searchPath name = .ok executable ∧
        loaded = { name, executable, args } := by
  unfold load
  cases resolve files searchPath name with
  | error error => simp [Except.map]
  | ok executable => simp [Except.map, eq_comm]

/-- Every command is resolved by its trimmed text: as a path, or in the search path.

The file system is what is seen of it when a path is followed to its end. A link counts as the file
or directory that it leads to, and a name that is no text is not there, so that an entry of the
search path with bytes that are no text has no file. How paths are told from names, which entry
comes first and what an added entry changes does not depend on either. -/
theorem command_resolved (files : FileSystem) (command : String) :
    Resolved files command (Text.trimChars command.toList) := by
  have trims := Text.trims_trimChars command.toList
  generalize Text.trimChars command.toList = trimmed at trims
  constructor
  case trims => exact trims
  case empty => exact resolve_eq_load_iff trims files
  case path =>
    intro filled path searchPath
    rw [resolve_path trims files searchPath filled (isPath_iff.mpr path),
      ← FileSystem.isExecutable_iff]
    constructor
    · intro runs
      rw [if_pos runs]
    · intro fails
      rw [if_neg fails]
  case found =>
    intro filled name searchPath
    exact resolve_name_eq_ok_iff trims files searchPath filled (isPath_eq_false name)
  case missing =>
    intro filled name searchPath
    exact resolve_name_eq_notFound_iff trims files searchPath filled (isPath_eq_false name)
  case inserted => exact resolve_inserted trims files
  case named => exact fun searchPath args loaded => load_eq_ok_iff

-- A directory and a file that nobody may execute do not hide an executable behind them.
example :
    let tool : Nat → Node := .file (.bytes [])
    let tree : Node := .directory
      [("a".toList, .directory [("tool".toList, .directory [])]),
        ("b".toList, .directory [("tool".toList, tool 0o644)]),
        ("c".toList, .directory [("tool".toList, tool 0o755)])]
    resolve ⟨tree, []⟩ (some (ofEntries (["a", "", "/b", "/c/"].map (Text.Utf8.encode ·.toList))))
      "\ttool " = .ok "/c/tool".toList := by
  rfl

end Evaluator.Command

end Scratchpad
