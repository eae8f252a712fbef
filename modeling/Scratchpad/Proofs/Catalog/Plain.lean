import Mathlib.Data.List.TakeWhile
import Scratchpad.Proofs.Catalog.Web
import Scratchpad.Proofs.Text.Blank

/-!
# Plain paths

A plain path consists of names that mean the same wherever they are read: nothing in them is
trimmed, encoded, resolved or taken for a scheme. It passes, it is found in a URL as it is written,
and it leads down by its names and nothing else.
-/

set_option autoImplicit false

namespace Scratchpad

/-! ## Plain names -/

namespace Path

/-- The characters of plain names: letters and digits of ASCII, and four marks. -/
def isPlainChar (c : Char) : Bool :=
  Url.isAsciiLetter c || ('0' ≤ c && c ≤ '9') || ['-', '_', '.', '~'].contains c

/-- A name that stands for an entry of a directory and for nothing else. -/
def isPlainName (name : List Char) : Bool :=
  !name.isEmpty && name.all isPlainChar && name != ['.'] && name != ['.', '.']

/-- One or more plain names, with one slash between any two. -/
def isPlain (path : Path) : Bool :=
  path.parts.all isPlainName

theorem toNat_lt_of_isPlainChar {c : Char} (plain : isPlainChar c = true) : c.toNat < 128 := by
  simp only [isPlainChar, Url.isAsciiLetter, List.contains_cons, List.contains_nil, Bool.or_false,
    Bool.or_eq_true, Bool.and_eq_true, decide_eq_true_eq, beq_iff_eq, Char.le_def,
    UInt32.le_iff_toNat_le] at plain
  rcases plain with ((letter | letter) | digit) | rfl | rfl | rfl | rfl
  · exact Nat.lt_of_le_of_lt letter.2 (by decide)
  · exact Nat.lt_of_le_of_lt letter.2 (by decide)
  · exact Nat.lt_of_le_of_lt digit.2 (by decide)
  all_goals decide

/-- What holds of each plain character in turn holds of all of them. -/
theorem forall_isPlainChar {p : Char → Prop}
    (all : ∀ n < 128, isPlainChar (Char.ofNat n) = true → p (Char.ofNat n)) {c : Char}
    (plain : isPlainChar c = true) : p c := by
  have known := all c.toNat (toNat_lt_of_isPlainChar plain)
  rw [Char.ofNat_toNat] at known
  exact known plain

/-- A character that nothing is made of when a path is read, as text or as a part of a URL. -/
structure IsInert (c : Char) : Prop where
  noColon : c ≠ ':'
  noNull : c ≠ '\x00'
  noBackslash : c ≠ '\\'
  noEdge : Url.isEdge c = false
  noTail : (c != '?' && c != '#') = true

theorem isInert_slash : IsInert '/' := by
  constructor <;> decide

theorem isInert_of_isPlainChar {c : Char} (plain : isPlainChar c = true) : IsInert c := by
  obtain ⟨noColon, noNull, noBackslash, noEdge, noTail⟩ :=
    forall_isPlainChar (p := fun c => c ≠ ':' ∧ c ≠ '\x00' ∧ c ≠ '\\' ∧
      Url.isEdge c = false ∧ (c != '?' && c != '#') = true) (by decide) plain
  exact ⟨noColon, noNull, noBackslash, noEdge, noTail⟩

theorem isAnySlash_of_isPlainChar {c : Char} (plain : isPlainChar c = true) :
    Url.isAnySlash c = false := by
  have slash : c ≠ '/' := by
    rintro rfl
    cases plain
  simp [Url.isAnySlash, slash, (isInert_of_isPlainChar plain).noBackslash]

theorem isPlainChar_unencoded {c : Char} (plain : isPlainChar c = true) :
    (Url.pathSet c || decide (0x7F < c.toNat)) = false :=
  forall_isPlainChar (p := fun c => (Url.pathSet c || decide (0x7F < c.toNat)) = false)
    (by decide) plain

theorem isBlank_of_isPlainChar {c : Char} (plain : isPlainChar c = true) :
    Text.isBlank c = false :=
  forall_isPlainChar (p := fun c => Text.isBlank c = false) (by decide) plain

section Names

variable {name : List Char} (plain : isPlainName name = true)
include plain

theorem of_isPlainName :
    name ≠ [] ∧ (∀ c ∈ name, isPlainChar c = true) ∧ name ≠ ['.'] ∧ name ≠ ['.', '.'] := by
  simpa [isPlainName, and_assoc] using plain

theorem isDot_of_isPlainName {part : List Char} (within : part ⊆ name) :
    Url.isDot part = true → part = ['.'] := by
  have noPercent : '%' ∉ part := fun found => by
    have percent := (of_isPlainName plain).2.1 '%' (within found)
    revert percent
    decide
  intro dot
  simp only [Url.isDot, Bool.or_eq_true, beq_iff_eq] at dot
  rcases dot with (same | rfl) | rfl
  · exact same
  · simp at noPercent
  · simp at noPercent

theorem isSingleDot_of_isPlainName : Url.isSingleDot name = false := by
  refine Bool.eq_false_iff.mpr fun dot => ?_
  exact (of_isPlainName plain).2.2.1 (isDot_of_isPlainName plain (List.Subset.refl name) dot)

theorem isDoubleDot_of_isPlainName : Url.isDoubleDot name = false := by
  have dots : ∀ n, Url.isDot (name.take n) = true → Url.isDot (name.drop n) = true →
      name = ['.', '.'] := by
    intro n front back
    have first := isDot_of_isPlainName plain (List.take_subset n name) front
    have second := isDot_of_isPlainName plain (List.drop_subset n name) back
    rw [← List.take_append_drop n name, first, second]
    rfl
  refine Bool.eq_false_iff.mpr fun double => (of_isPlainName plain).2.2.2 ?_
  simp only [Url.isDoubleDot, Bool.or_eq_true, Bool.and_eq_true] at double
  rcases double with ⟨front, back⟩ | ⟨front, back⟩
  · exact dots 1 front back
  · exact dots 3 front back

theorem percentEncode_of_isPlainName : Url.percentEncode Url.pathSet name = name := by
  have kept : ∀ c ∈ name, (if Url.pathSet c || decide (0x7F < c.toNat) then
      (String.utf8EncodeChar c).flatMap Url.encodeByte else [c]) = [c] := by
    intro c present
    rw [isPlainChar_unencoded ((of_isPlainName plain).2.1 c present), if_neg Bool.false_ne_true]
  rw [Url.percentEncode, List.flatMap_def, List.map_congr_left kept, ← List.flatMap_def,
    List.flatMap_singleton']

end Names

/-! ## Plain paths -/

section Paths

variable {path : Path} (plain : isPlain path = true)
include plain

theorem isPlainName_of_mem {name : List Char} (member : name ∈ path.parts) :
    isPlainName name = true :=
  List.all_eq_true.mp plain name member

theorem eq_slash_or_isPlainChar_of_mem {c : Char} (member : c ∈ path) :
    c = '/' ∨ isPlainChar c = true := by
  rcases Text.separates_or_mem_split (· == '/') member with slash | ⟨name, present, inside⟩
  · exact .inl (eq_of_beq slash)
  · exact .inr ((of_isPlainName (isPlainName_of_mem plain present)).2.1 c inside)

theorem isInert_of_mem {c : Char} (member : c ∈ path) : IsInert c := by
  rcases eq_slash_or_isPlainChar_of_mem plain member with rfl | plainChar
  · exact isInert_slash
  · exact isInert_of_isPlainChar plainChar

theorem isBlank_of_mem {c : Char} (member : c ∈ path) : Text.isBlank c = false := by
  rcases eq_slash_or_isPlainChar_of_mem plain member with rfl | plainChar
  · rfl
  · exact isBlank_of_isPlainChar plainChar

theorem trims_of_isPlain {before after : List Char}
    (blankBefore : ∀ c ∈ before, Text.isBlank c = true)
    (blankAfter : ∀ c ∈ after, Text.isBlank c = true) :
    Text.Trims (before ++ path ++ after) path where
  around := ⟨before, after, rfl, blankBefore, blankAfter⟩
  first _ begins := isBlank_of_mem plain (List.mem_of_head? begins)
  last _ ends := isBlank_of_mem plain (List.mem_of_getLast? ends)

theorem ne_nil_of_isPlain : path ≠ [] := by
  rintro rfl
  cases plain

theorem exists_cons_of_isPlain : ∃ c rest, path = c :: rest ∧ Url.isAnySlash c = false := by
  obtain ⟨c, rest, rfl⟩ := List.exists_cons_of_ne_nil (ne_nil_of_isPlain plain)
  refine ⟨c, rest, rfl, isAnySlash_of_isPlainChar ?_⟩
  by_cases slash : c = '/'
  · have empty : [] ∈ parts (c :: rest) := by simp [parts, Text.split, slash]
    exact absurd rfl (of_isPlainName (isPlainName_of_mem plain empty)).1
  · obtain ⟨name, names, parted⟩ := Text.split_eq_cons (· == '/') rest
    have first : c :: name ∈ parts (c :: rest) := by simp [parts, Text.split, slash, parted]
    exact (of_isPlainName (isPlainName_of_mem plain first)).2.1 c List.mem_cons_self

end Paths

end Path

/-! ## Plain paths in URLs -/

namespace Url

theorem descend_of_isPlainName (directory : List (List Char)) {names : List (List Char)}
    (plain : ∀ name ∈ names, Path.isPlainName name = true) :
    descend .special directory names = directory ++ names := by
  refine descend_of_no_dots directory fun name member => ?_
  exact ⟨Path.isDoubleDot_of_isPlainName (plain name member),
    Path.isSingleDot_of_isPlainName (plain name member)⟩

/-- A slash at the end of a path and a further path make one path. -/
theorem render_hierarchy_parts (directory : List (List Char)) (path : Path) :
    (Route.hierarchy (directory ++ path.parts)).render =
      (Route.hierarchy (directory ++ [[]])).render ++ path := by
  simp only [Route.render, Path.parts, List.flatMap_append, Text.flatMap_split]
  simp

section Paths

variable {path : Path} (plain : path.isPlain = true)
include plain

theorem strip_of_isPlain : strip path = path :=
  strip_of_no_edge fun _ member => (Path.isInert_of_mem plain member).noEdge

theorem scheme?_of_isPlain : scheme? path = none := by
  unfold scheme?
  split
  · rename_i c name rest _ after
    have colon : ':' ∈ path :=
      (List.dropWhile_suffix isSchemeChar).subset (after ▸ List.mem_cons_self)
    exact absurd rfl (Path.isInert_of_mem plain colon).noColon
  · rfl

theorem cutPath_of_isPlain : cutPath path = (path, []) := by
  have kept : ∀ c ∈ path, (c != '?' && c != '#') = true :=
    fun c member => (Path.isInert_of_mem plain member).noTail
  rw [cutPath, List.takeWhile_eq_self_iff.mpr kept, List.dropWhile_eq_nil_iff.mpr kept]

theorem written_of_isPlain : written .special path = path.parts := by
  have cut : Text.split (isSlash .special) path = path.parts := by
    refine Text.split_congr fun c member => ?_
    simp [isSlash, (Path.isInert_of_mem plain member).noBackslash]
  rw [written, cut]
  refine (List.map_congr_left fun name member => ?_).trans (List.map_id _)
  exact Path.percentEncode_of_isPlainName (Path.isPlainName_of_mem plain member)

theorem complete_of_isPlain {scheme : List Char} (special : kind scheme = .special)
    (authority : Option Authority) (directory : List (List Char)) :
    complete scheme authority directory path =
      { scheme, authority, route := .hierarchy (directory ++ path.parts) } := by
  have route := route_complete special authority directory path
  rw [cutPath_of_isPlain plain, written_of_isPlain plain, descend_of_isPlainName directory
    fun name member => Path.isPlainName_of_mem plain member] at route
  rw [← route]
  simp [complete, cutPath_of_isPlain plain, tail]

theorem relative_of_isPlain (base : Url) :
    relative base path = .ok (complete base.scheme base.authority base.directory path) := by
  have marks : ∀ c ∈ path, c ≠ '?' ∧ c ≠ '#' := by
    intro c member
    simpa using (Path.isInert_of_mem plain member).noTail
  obtain ⟨c, rest, rfl, noSlash⟩ := Path.exists_cons_of_isPlain plain
  unfold relative
  split
  · exact absurd ‹_› (List.cons_ne_nil c rest)
  · rename_i same
    exact absurd (List.cons.inj same).1 (marks c List.mem_cons_self).1
  · rename_i same
    exact absurd (List.cons.inj same).1 (marks c List.mem_cons_self).2
  · rename_i first others _ _ same
    obtain ⟨rfl, rfl⟩ := List.cons.inj same
    rw [noSlash, if_neg Bool.false_ne_true]

/-- A plain path is added to a root as it is written. -/
theorem join_of_isPlain {root : Url} (valid : root.IsRoot) :
    root.join path = .ok { root with
      route := .hierarchy (root.directory ++ path.parts)
      query := none
      fragment := none } := by
  have target := relative_of_isPlain plain root
  rw [complete_of_isPlain plain valid.special] at target
  simp only [join, strip_of_isPlain plain, scheme?_of_isPlain plain, withoutScheme, valid.closed,
    valid.special]
  split
  · exact absurd (Path.isInert_of_mem plain List.mem_cons_self).noTail (by decide)
  · rename_i unstructured _
    cases unstructured
  · exact target

end Paths

end Url

/-! ## Paths below a URL -/

namespace Url

/-- A URL is another one up to its path, followed by the path of that one, a slash if it does not
end in one, and a further path. -/
structure Deepens (url : Url) (path : Path) (target : Url) : Prop where
  /-- The text is cut before and after the path. -/
  cut : url.render = url.renderOrigin ++ url.route.render ++
    (renderPart '?' url.query ++ renderPart '#' url.fragment)
  text : target.render = url.renderOrigin ++
    (url.route.render ++ if url.route.render.getLast? = some '/' then [] else ['/']) ++ path
  query : target.query = none
  fragment : target.fragment = none
  /-- Nothing gives way but an empty segment at the end. -/
  segments : ∃ kept, (url.route = .hierarchy kept ∨ url.route = .hierarchy (kept ++ [[]])) ∧
    target.route = .hierarchy (kept ++ path.parts)

theorem getLast?_render_hierarchy {segments : List (List Char)} (clean : IsSegmented segments) :
    (Route.hierarchy segments).render.getLast? = some '/' ↔ segments.getLast? = some [] := by
  cases ends : segments.getLast? with
  | none =>
    rw [List.getLast?_eq_none_iff.mp ends]
    simp [Route.render]
  | some last =>
    obtain ⟨front, rfl⟩ := List.getLast?_eq_some_iff.mp ends
    have named : '/' ∉ last := clean last (List.mem_append_right front List.mem_cons_self)
    have text : (Route.hierarchy (front ++ [last])).render =
        (Route.hierarchy front).render ++ '/' :: last := by
      simp [Route.render]
    cases last with
    | nil => simp [text]
    | cons c rest =>
      have final : (Route.hierarchy (front ++ [c :: rest])).render.getLast? =
          (c :: rest).getLast? := by
        rw [text, List.getLast?_append, List.getLast?_cons_cons, List.getLast?_cons]
        rfl
      rw [final]
      simp only [Option.some.injEq, reduceCtorEq, iff_false]
      exact fun slash => named (List.mem_of_getLast? slash)

theorem authority_withTrailingSlash (url : Url) :
    url.withTrailingSlash.authority = url.authority := by
  unfold withTrailingSlash
  split <;> split <;> rfl

theorem renderOrigin_withTrailingSlash (url : Url) :
    url.withTrailingSlash.renderOrigin = url.renderOrigin := by
  rw [renderOrigin, scheme_withTrailingSlash, authority_withTrailingSlash, renderOrigin]

section Closed

variable {url : Url} (special : kind url.scheme = .special) {segments : List (List Char)}
  (path : url.route = .hierarchy segments)
include special path

theorem directory_withTrailingSlash :
    segments = url.withTrailingSlash.directory ∨
      segments = url.withTrailingSlash.directory ++ [[]] := by
  unfold withTrailingSlash
  rw [path]
  dsimp only
  split
  · rename_i slash
    obtain ⟨front, rfl⟩ := List.getLast?_eq_some_iff.mp (eq_of_beq slash)
    right
    simp [directory, path]
  · left
    simp [directory, closed, special]

theorem render_withTrailingSlash (clean : IsSegmented segments) :
    url.withTrailingSlash.route.render =
      url.route.render ++ if url.route.render.getLast? = some '/' then [] else ['/'] := by
  unfold withTrailingSlash
  simp only [path, getLast?_render_hierarchy clean, beq_iff_eq]
  split
  · rw [path, List.append_nil]
  · simp [closed, special, Route.render]

end Closed

/-- A root with a path after its own is written as the root, up to its query, and the path. -/
theorem IsRoot.render_below {root : Url} (valid : root.IsRoot) {authority : Authority}
    (server : root.authority = some authority) (path : Path) :
    render { root with
      route := .hierarchy (root.directory ++ path.parts)
      query := none
      fragment := none } = root.renderOrigin ++ root.route.render ++ path := by
  have text := render_hierarchy_parts root.directory path
  rw [← valid.closed] at text
  simp [render, renderOrigin, renderGuard, renderPart, server, text]

end Url

/-! ## Plain paths in catalogs -/

namespace Catalog

theorem hasSchemeMark_of_no_colon {path : List Char} (free : ':' ∉ path) :
    hasSchemeMark path = false := by
  fun_induction hasSchemeMark path with
  | case1 => rfl
  | case2 rest => simp at free
  | case3 c rest _ ih => exact ih fun found => free (List.mem_cons_of_mem c found)

theorem not_escapes_of_isPlain {path : Path} (plain : path.isPlain = true) :
    escapes path = false := by
  have cut : Text.split (fun c => c == '/' || c == '\\') path = path.parts := by
    refine Text.split_congr fun c member => ?_
    simp [(Path.isInert_of_mem plain member).noBackslash]
  have inside : (path.parts.any (· == ['.', '.'])) = false := by
    refine List.any_eq_false.mpr fun name member double => ?_
    exact (Path.of_isPlainName (Path.isPlainName_of_mem plain member)).2.2.2 (eq_of_beq double)
  have marked : hasSchemeMark path = false :=
    hasSchemeMark_of_no_colon fun colon => (Path.isInert_of_mem plain colon).noColon rfl
  obtain ⟨c, rest, rfl, noSlash⟩ := Path.exists_cons_of_isPlain plain
  obtain ⟨slash, backslash⟩ : c ≠ '/' ∧ c ≠ '\\' := by simpa [Url.isAnySlash] using noSlash
  simp [escapes, cut, inside, marked, slash, backslash]

theorem relativePath_of_isPlain {path : String}
    (plain : Path.isPlain (Text.trimChars path.toList) = true) :
    relativePath path = .ok (Text.trimChars path.toList) := by
  simp [relativePath, Path.ne_nil_of_isPlain plain, not_escapes_of_isPlain plain]

/-- A plain path is resolved to the URL of the root, without query and fragment and with the names
of the path after its own. -/
theorem Source.resolve_of_isPlain {root : Url} (valid : root.IsRoot) {path : String}
    (plain : Path.isPlain (Text.trimChars path.toList) = true) :
    resolve root path = .ok { root with
      route := .hierarchy (root.directory ++ Path.parts (Text.trimChars path.toList))
      query := none
      fragment := none } := by
  rw [resolve, relativePath_of_isPlain plain]
  simp only [bind, Except.bind, Url.join_of_isPlain plain valid]
  rfl

/-- A plain path with blanks around it is resolved to the URL of the root with the path after its
own. -/
theorem plain_path_appended {text : String} {url : Url} (read : Url.parse text.toList = .ok url)
    (web : url.scheme = ['h', 't', 't', 'p'] ∨ url.scheme = ['h', 't', 't', 'p', 's'])
    {before after : List Char} (blankBefore : ∀ c ∈ before, Text.isBlank c = true)
    (blankAfter : ∀ c ∈ after, Text.isBlank c = true) {path : Path} (plain : path.isPlain = true) :
    ∃ root target, Source.ofUrl text = .ok (.web root) ∧
      Source.resolve root (String.ofList (before ++ path ++ after)) = .ok target ∧
      url.Deepens path target := by
  have special : Url.kind url.scheme = .special := by
    rcases web with same | same <;> rw [same] <;> decide
  have made : Source.ofUrl text = .ok (.web url.withTrailingSlash) := by
    rw [Source.ofUrl, read]
  obtain ⟨segments, route, clean⟩ := Url.route_of_parse read special
  obtain ⟨-, authority, rest, -, shape⟩ := Url.of_parse read special
  have server : url.authority = some authority := congrArg Url.authority shape
  have valid := Url.isRoot_withTrailingSlash special route clean
  have trimmed : Text.trimChars (String.ofList (before ++ path ++ after)).toList = path := by
    rw [String.toList_ofList]
    exact (Path.trims_of_isPlain plain blankBefore blankAfter).eq_trimChars.symm
  have resolved := Source.resolve_of_isPlain valid (trimmed.symm ▸ plain)
  rw [trimmed] at resolved
  refine ⟨_, _, made, resolved, ?_⟩
  constructor
  case cut => simp [Url.render, Url.renderGuard, server]
  case text =>
    rw [valid.render_below ((Url.authority_withTrailingSlash url).trans server),
      Url.renderOrigin_withTrailingSlash, Url.render_withTrailingSlash special route clean]
  case query => rfl
  case fragment => rfl
  case segments =>
    refine ⟨_, ?_, rfl⟩
    rw [route]
    rcases Url.directory_withTrailingSlash special route with same | same
    · exact .inl (congrArg _ same)
    · exact .inr (congrArg _ same)

/-- A root with all its parts and without a slash at its end. -/
theorem plain_path_appended_to_full_root :
    ∃ root target,
      Source.ofUrl "http://me:pw@example.org:8080/rufus/examples?draft#top" = .ok (.web root) ∧
      Source.resolve root " \tbasics/id.rufus\n" = .ok target ∧
      String.ofList target.render =
        "http://me:pw@example.org:8080/rufus/examples/basics/id.rufus" := by
  let url : Url :=
    { scheme := "http".toList
      authority := some
        { username := "me".toList, password := some "pw".toList
          host := .domain "example.org".toList, port := some 8080 }
      route := .hierarchy ["rufus".toList, "examples".toList]
      query := some "draft".toList
      fragment := some "top".toList }
  have read : Url.parse "http://me:pw@example.org:8080/rufus/examples?draft#top".toList = .ok url :=
    rfl
  have before : ∀ c ∈ [' ', '\t'], Text.isBlank c = true := List.all_eq_true.mp rfl
  have after : ∀ c ∈ ['\n'], Text.isBlank c = true := List.all_eq_true.mp rfl
  have plain : Path.isPlain "basics/id.rufus".toList = true := by decide
  obtain ⟨root, target, made, resolved, deepens⟩ :=
    plain_path_appended read (.inl rfl) before after plain
  refine ⟨root, target, made, resolved, ?_⟩
  rw [deepens.text]
  rfl

end Catalog

end Scratchpad
