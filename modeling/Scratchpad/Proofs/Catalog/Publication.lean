import Scratchpad.Proofs.Catalog.Plain
import Scratchpad.Proofs.FileSystem.Place
import Scratchpad.Proofs.Text.Utf8

/-!
# The same resources in three places

Resources under plain paths can be kept in memory, as files below a directory, or on a server below
a URL. A source at any of the three places is as good as at another: it gives the text of every
resource and fails for every other plain path.
-/

set_option autoImplicit false

namespace Scratchpad

open Text (Utf8.encode)

/-! ## Resources as files -/

/-- Below a node, the files at plain paths are the resources. -/
def Node.Holds (node : Node) (resources : List (String × String)) : Prop :=
  ∀ path : Path, path.isPlain = true →
    node.content? path.parts =
      (resources.lookup (String.ofList path)).map fun text => .bytes (Utf8.encode text.toList)

/-- The tree in which every resource has been put in its place. -/
def Node.ofResources (resources : List (String × String)) : Node :=
  resources.foldr
    (fun entry tree =>
      (Node.file (.bytes (Utf8.encode entry.2.toList)) 0o644).place (Path.parts entry.1.toList) tree)
    (.directory [])

/-- No path of a resource leads through that of another. -/
def AreApart (resources : List (String × String)) : Prop :=
  ∀ one ∈ resources, ∀ other ∈ resources,
    Path.parts one.1.toList <+: Path.parts other.1.toList → one.1 = other.1

instance (resources : List (String × String)) : Decidable (AreApart resources) :=
  inferInstanceAs (Decidable (∀ one ∈ resources, ∀ other ∈ resources,
    Path.parts one.1.toList <+: Path.parts other.1.toList → one.1 = other.1))

theorem Node.isDirectory_ofResources (resources : List (String × String)) :
    (ofResources resources).isDirectory = true := by
  cases resources with
  | nil => rfl
  | cons entry resources =>
    obtain ⟨name, names, parted⟩ := Text.split_eq_cons (· == '/') entry.1.toList
    rw [ofResources, List.foldr_cons, Path.parts, parted, place]
    exact isDirectory_put _ _ _

theorem mem_of_lookup {resources : List (String × String)} {key text : String}
    (found : resources.lookup key = some text) : (key, text) ∈ resources := by
  obtain ⟨before, after, rfl, -⟩ := List.lookup_eq_some_iff.mp found
  simp

/-- No file gets in the way of another. -/
theorem Node.holds_ofResources {resources : List (String × String)} (apart : AreApart resources) :
    (ofResources resources).Holds resources := by
  intro path plain
  induction resources with
  | nil => exact content?_empty _
  | cons entry resources ih =>
    obtain ⟨key, text⟩ := entry
    have later := ih fun one first other second =>
      apart one (List.mem_cons_of_mem _ first) other (List.mem_cons_of_mem _ second)
    rw [ofResources, List.foldr_cons]
    by_cases same : String.ofList path = key
    · subst same
      rw [List.lookup_cons_self, String.toList_ofList]
      exact content?_place_self _ _ _ _
    · have skipped : ((key, text) :: resources).lookup (String.ofList path) =
          resources.lookup (String.ofList path) := by
        rw [List.lookup_cons, beq_false_of_ne same]
      rw [skipped]
      by_cases along : Path.parts key.toList <+: path.parts ∨ path.parts <+: Path.parts key.toList
      · -- The file is above or below the path, so that there is no resource at the path itself.
        have different : path.parts ≠ Path.parts key.toList := by
          intro equal
          exact same (by rw [Text.split_injective equal, String.ofList_toList])
        rw [content?_place_along _ _ _ _ along different]
        cases found : resources.lookup (String.ofList path) with
        | none => rfl
        | some other =>
          have present := List.mem_cons_of_mem (key, text) (mem_of_lookup found)
          rcases along with above | below
          · have equal := apart _ List.mem_cons_self _ present
              (by simpa [String.toList_ofList] using above)
            exact absurd equal.symm same
          · have equal := apart _ present _ List.mem_cons_self
              (by simpa [String.toList_ofList] using below)
            exact absurd equal same
      · obtain ⟨beyond, before⟩ := not_or.mp along
        rw [content?_place_apart _ _ _ _ beyond before]
        exact later

namespace FileSystem

/-- The resources are files below a directory, with names and paths that are not too long. -/
structure Stores (files : FileSystem) (root : Path) (resources : List (String × String)) :
    Prop where
  found : ∃ node above, files.locate root = .ok (node :: above) ∧ node.Holds resources
  names : ∀ entry ∈ resources, ∀ name ∈ Path.parts entry.1.toList, Text.Utf8.size name ≤ nameLimit
  paths : ∀ entry ∈ resources, Text.Utf8.size (root.join entry.1.toList) < pathLimit

theorem of_locate {files : FileSystem} {path : Path} {place : Place}
    (found : files.locate path = .ok place) :
    path.contains '\x00' = false ∧ Text.Utf8.size path < pathLimit := by
  simp only [locate] at found
  split at found
  · cases found
  · rename_i clean
    split at found
    · cases found
    · rename_i short
      exact ⟨eq_false_of_ne_true clean, Nat.lt_of_not_le short⟩

theorem readText_eq {path : Path} (filled : path ≠ []) (files : FileSystem) :
    files.readText path = files.locate path >>= fun place =>
      match place with
      | node :: _ => node.text
      | [] => .error .notFound := by
  rw [readText, find_eq, if_neg (by simpa using filled), bind_assoc]
  congr 1
  funext place
  cases place <;> rfl

theorem areNames_of_isPlain {path : Path} (plain : path.isPlain = true) : AreNames path.parts := by
  intro name member
  obtain ⟨filled, -, single, double⟩ := Path.of_isPlainName (Path.isPlainName_of_mem plain member)
  exact ⟨filled, single, double⟩

section Stored

variable {files : FileSystem} {root : Path} {node : Node} {above : Place}
  (found : files.locate root = .ok (node :: above)) {path : Path} (plain : path.isPlain = true)
include found plain

theorem locate_plain (clean : (root.join path).contains '\x00' = false)
    (short : Text.Utf8.size (root.join path) < pathLimit) :
    files.locate (root.join path) = walk (node :: above) path.parts := by
  have inside := Catalog.not_escapes_of_isPlain plain
  rw [locate_join (Catalog.relative_of_not_escapes inside) (Catalog.down_of_not_escapes inside)
    clean short, found]
  rfl

theorem clean_join : (root.join path).contains '\x00' = false := by
  have above := (of_locate found).1
  refine Bool.eq_false_iff.mpr fun null => ?_
  rcases Path.mem_join (List.contains_iff_mem.mp null) with early | slash | late
  · simp [early] at above
  · cases slash
  · exact (Path.isInert_of_mem plain late).noNull rfl

theorem readText_of_content? (short : Text.Utf8.size (root.join path) < pathLimit)
    (names : ∀ name ∈ path.parts, Text.Utf8.size name ≤ nameLimit) {text : String}
    (holds : node.content? path.parts = some (.bytes (Utf8.encode text.toList))) :
    files.readText (root.join path) = .ok text := by
  obtain ⟨mode, leads⟩ := Node.of_content? holds
  obtain ⟨beyond, walked⟩ := walk_of_below? (areNames_of_isPlain plain) names leads above
  have located := locate_plain found plain (clean_join found plain) short
  rw [walked] at located
  rw [readText_eq (Path.join_ne_nil (Path.ne_nil_of_isPlain plain) root), located]
  simp [bind, Except.bind, Node.text, Text.Utf8.decode_encode]

theorem content?_of_readText {text : String} (read : files.readText (root.join path) = .ok text) :
    ∃ content, node.content? path.parts = some content := by
  rw [readText_eq (Path.join_ne_nil (Path.ne_nil_of_isPlain plain) root)] at read
  cases located : files.locate (root.join path) with
  | error error => simp [located, bind, Except.bind] at read
  | ok place =>
    rw [located] at read
    cases place with
    | nil => cases read
    | cons reached beyond =>
      obtain ⟨clean, short⟩ := of_locate located
      rw [locate_plain found plain clean short] at located
      have leads := below?_of_walk (areNames_of_isPlain plain) located
      exact Node.content?_of_text leads read

end Stored

theorem stores_ofResources {resources : List (String × String)} (apart : AreApart resources)
    (names : ∀ entry ∈ resources, ∀ name ∈ Path.parts entry.1.toList,
      Text.Utf8.size name ≤ nameLimit)
    (paths : ∀ entry ∈ resources, Text.Utf8.size (Path.join ['/'] entry.1.toList) < pathLimit) :
    Stores { tree := .ofResources resources, current := [] } ['/'] resources := by
  refine ⟨⟨.ofResources resources, [], ?_, Node.holds_ofResources apart⟩, names, paths⟩
  have enters : step [.ofResources resources] [] = .ok [.ofResources resources] := by
    rw [step, Node.isDirectory_ofResources, if_pos rfl]
  change walk [.ofResources resources] [[], []] = _
  simp [walk, enters, bind, Except.bind, pure, Except.pure]

end FileSystem

/-! ## Resources on a server -/

namespace Web

/-- The text that a server is asked for, up to the end of the path of a URL. -/
def base (root : Url) : List Char :=
  target { root with query := none, fragment := none }

/-- A server below a URL that can be asked for: it has the resources, and nothing else. -/
structure Serves (web : Web) (root : Url) (resources : List (String × String)) : Prop where
  sendable : isSendable root = true
  found : ∀ key text, resources.lookup key = some text →
    web (base root ++ key.toList) = some (.response ⟨200, Utf8.encode text.toList⟩)
  missing : ∀ url, (∀ key text, resources.lookup key = some text → url ≠ base root ++ key.toList) →
    ∃ body, web url = some (.response ⟨404, body⟩)

/-- The server that has the resources below a text. -/
def ofResources (base : List Char) (resources : List (String × String)) : Web := fun url =>
  match base.isPrefixOf url, resources.lookup (String.ofList (url.drop base.length)) with
  | true, some text => some (.response ⟨200, Utf8.encode text.toList⟩)
  | _, _ => some (.response ⟨404, []⟩)

theorem serves_ofResources {root : Url} (sendable : isSendable root = true)
    (resources : List (String × String)) :
    Serves (ofResources (base root) resources) root resources := by
  refine ⟨sendable, ?_, ?_⟩
  · intro key text present
    have begins : (base root).isPrefixOf (base root ++ key.toList) = true :=
      List.isPrefixOf_iff_prefix.mpr (List.prefix_append _ _)
    simp [ofResources, begins, present]
  · intro url elsewhere
    refine ⟨[], ?_⟩
    unfold ofResources
    split
    · rename_i text begins present
      obtain ⟨rest, rfl⟩ := List.isPrefixOf_iff_prefix.mp begins
      rw [List.drop_left] at present
      exact absurd (by rw [String.toList_ofList]) (elsewhere _ text present)
    · rfl

section Served

variable {web : Web} {root : Url} {resources : List (String × String)}
  (served : Serves web root resources) (valid : root.IsRoot)
include served valid

/-- A plain path is asked for by its own text after that of the root. -/
theorem target_below (path : Path) :
    target { root with
      route := .hierarchy (root.directory ++ path.parts)
      query := none
      fragment := none } = base root ++ path := by
  have sendable := served.sendable
  cases named : root.authority with
  | none => simp [isSendable, named] at sendable
  | some authority =>
    simp only [base, target, withoutCredentials, named, valid.closed]
    split <;>
      simp [Url.render, Url.renderOrigin, Url.renderGuard, Url.renderPart, Url.withoutUser,
        Url.render_hierarchy_parts]

theorem get_below {path : Path} {response : Response}
    (answered : web (base root ++ path) = some (.response response)) :
    web.get { root with
      route := .hierarchy (root.directory ++ path.parts)
      query := none
      fragment := none } = .ok response := by
  have sendable : isSendable { root with
      route := .hierarchy (root.directory ++ path.parts)
      query := none
      fragment := none } = true := served.sendable
  rw [get, follow, isSendable_withoutCredentials, sendable, target_withoutCredentials,
    target_below served valid, answered]
  rfl

end Served

end Web

/-! ## Sources -/

namespace Catalog

namespace Source

variable {world : World} {resources : List (String × String)} {path : String}
  (plain : Path.isPlain (Text.trimChars path.toList) = true)
include plain

theorem fetch_memory :
    (fetch world (.memory resources) path).toOption = resources.lookup (Text.trim path) := by
  have relative := relativePath_of_isPlain plain
  simp only [fetch, fromMemory, relative, bind, Except.bind]
  rw [Text.trim]
  cases resources.lookup (String.ofList (Text.trimChars path.toList)) <;> rfl

theorem fetch_directory {root : Path} (stored : world.files.Stores root resources) :
    (fetch world (.directory root) path).toOption = resources.lookup (Text.trim path) := by
  obtain ⟨⟨node, above, located, holds⟩, names, paths⟩ := stored
  have content := holds _ plain
  rw [fetch_directory_of_passed (relativePath_of_isPlain plain), readBelow, Text.trim]
  cases found : resources.lookup (String.ofList (Text.trimChars path.toList)) with
  | some text =>
    have present := mem_of_lookup found
    have short := paths _ present
    have fits := names _ present
    rw [String.toList_ofList] at short fits
    rw [found] at content
    rw [FileSystem.readText_of_content? located plain short fits content]
    rfl
  | none =>
    rw [found] at content
    -- The path may be too long or lead through a file. Whatever is read has been reached by names.
    cases read : world.files.readText (root.join (Text.trimChars path.toList)) with
    | error error => rfl
    | ok text =>
      obtain ⟨other, present⟩ := FileSystem.content?_of_readText located plain read
      rw [content] at present
      cases present

theorem fetch_web {root : Url} (valid : root.IsRoot) (served : world.web.Serves root resources) :
    (fetch world (.web root) path).toOption = resources.lookup (Text.trim path) := by
  have resolved := resolve_of_isPlain valid plain
  simp only [fetch, resolved, bind, Except.bind]
  rw [Text.trim]
  cases found : resources.lookup (String.ofList (Text.trimChars path.toList)) with
  | some text =>
    have answered := served.found _ text found
    rw [String.toList_ofList] at answered
    rw [download, Web.get_below served valid answered]
    simp [Text.Utf8.lossy_encode, Except.toOption]
  | none =>
    have elsewhere : ∀ key text, resources.lookup key = some text →
        Web.base root ++ Text.trimChars path.toList ≠ Web.base root ++ key.toList := by
      intro key text present same
      rw [List.append_cancel_left same, String.ofList_toList, present] at found
      cases found
    obtain ⟨body, answered⟩ := served.missing _ elsewhere
    rw [download, Web.get_below served valid answered]
    rfl

end Source

/-- The world in which the resources are the only files, and are also served below a URL. -/
def World.publishing (root : Url) (resources : List (String × String)) : World where
  files := { tree := .ofResources resources, current := [] }
  web := .ofResources (Web.base root) resources

/-! ## Calls -/

/-- What a call comes to, but for the reason of a failure. -/
def Reply.value? : Reply → Option (String ⊕ List Example)
  | .text result => result.toOption.map .inl
  | .catalog result => result.toOption.map .inr

/-- A call for a plain path, with blanks around it or without. -/
def Query.isPlain : Query → Bool
  | .text path => Path.isPlain (Text.trimChars path.toList)
  | .catalog => true
  | .program entry => Path.isPlain (Text.trimChars entry.file.toList)

/-- What a call comes to by the resources alone. -/
def Query.valueIn (resources : List (String × String)) : Query → Option (String ⊕ List Example)
  | .text path => (resources.lookup (Text.trim path)).map .inl
  | .catalog =>
    ((resources.lookup manifestFile).bind fun text => (readManifest text).toOption).map .inr
  | .program entry => (resources.lookup (Text.trim entry.file)).map .inl

/-- A source that gives the resources at plain paths answers every call as the resources have it. -/
theorem Source.value?_reply {world : World} {source : Source} {resources : List (String × String)}
    (gives : ∀ path : String, Path.isPlain (Text.trimChars path.toList) = true →
      (source.fetch world path).toOption = resources.lookup (Text.trim path))
    {query : Query} (plain : query.isPlain = true) :
    (source.reply world query).value? = query.valueIn resources := by
  cases query with
  | text path => exact congrArg (Option.map Sum.inl) (gives path plain)
  | program entry => exact congrArg (Option.map Sum.inl) (gives entry.file plain)
  | catalog =>
    have manifest := gives manifestFile (by decide)
    have trimmed : Text.trim manifestFile = manifestFile := by decide
    rw [trimmed] at manifest
    rw [Query.valueIn, ← manifest, reply, Reply.value?, Source.catalog]
    cases source.fetch world manifestFile with
    | error error => rfl
    | ok text =>
      have read : (ofManifest (.ok text)).toOption = (readManifest text).toOption := by
        simp only [ofManifest, bind, Except.bind]
        cases readManifest text <;> rfl
      rw [read]
      rfl

/-- Whether the resources are in memory, below a directory or on a server, every call for a plain
path gives what the resources have there, or fails if they have nothing. -/
theorem sources_agree {world : World} {resources : List (String × String)} {directory : Path}
    {address : String} {root : Url} (stored : world.files.Stores directory resources)
    (made : Source.ofUrl address = .ok (.web root)) (served : world.web.Serves root resources)
    {query : Query} (plain : query.isPlain = true) :
    ∀ source ∈ [Source.memory resources, .directory directory, .web root],
      (source.reply world query).value? = query.valueIn resources := by
  have special : Url.kind root.scheme = .special := by
    have sendable := served.sendable
    simp only [Web.isSendable, Bool.and_eq_true, Bool.or_eq_true, beq_iff_eq] at sendable
    rcases sendable.1 with same | same <;> rw [same] <;> decide
  have valid := isRoot_of_ofUrl made special
  intro source member
  refine Source.value?_reply (fun path plain => ?_) plain
  simp only [List.mem_cons, List.not_mem_nil, or_false] at member
  rcases member with rfl | rfl | rfl
  · exact Source.fetch_memory plain
  · exact Source.fetch_directory plain stored
  · exact Source.fetch_web plain valid served

theorem sources_agree_when_published :
    let manifest := "[\x7b\"name\": \"Identity\", \"file\": \"base/id.rufus\"\x7d]"
    let resources := [("index.json", manifest), ("base/id.rufus", "λx. x\n")]
    let root : Url :=
      { scheme := "http".toList
        authority := some { host := .domain "example.org".toList }
        route := .hierarchy ["examples".toList, []] }
    let world := World.publishing root resources
    let sources := [Source.memory resources, .directory ['/'], .web root]
    world.files.Stores ['/'] resources ∧
      Source.ofUrl "http://example.org/examples" = .ok (.web root) ∧
      world.web.Serves root resources ∧
      ∀ source ∈ sources,
        (source.reply world (.text " base/id.rufus\n")).value? = some (.inl "λx. x\n") ∧
        (source.reply world (.text "base")).value? = none ∧
        (source.reply world .catalog).value? = some (.inr [⟨"Identity", "base/id.rufus"⟩]) := by
  intro manifest resources root world sources
  have stored : world.files.Stores ['/'] resources :=
    FileSystem.stores_ofResources (by decide) (by decide) (by decide)
  have made : Source.ofUrl "http://example.org/examples" = .ok (.web root) := rfl
  have served : world.web.Serves root resources := Web.serves_ofResources rfl resources
  refine ⟨stored, made, served, fun source member => ⟨?_, ?_, ?_⟩⟩
  · rw [sources_agree stored made served rfl source member]
    rfl
  · rw [sources_agree stored made served rfl source member]
    rfl
  · rw [sources_agree stored made served rfl source member]
    decide +kernel

end Catalog

end Scratchpad
