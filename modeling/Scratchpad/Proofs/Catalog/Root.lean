import Scratchpad.Proofs.Catalog.Plain
import Scratchpad.Proofs.Url.Render

/-!
# Reported roots

The root that a source reports names the source again: a directory by its path without the blanks
around it, and a URL in the form in which it is written. For a URL this assumes that its host is
read by the standard, which sets no limit to the length of a label.
-/

set_option autoImplicit false

namespace Scratchpad

namespace Text

theorem trimChars_eq_self {cs : List Char} (first : ∀ c, cs.head? = some c → isBlank c = false)
    (last : ∀ c, cs.getLast? = some c → isBlank c = false) : trimChars cs = cs := by
  have trims : Trims cs cs := ⟨⟨[], [], by simp, by simp, by simp⟩, first, last⟩
  exact trims.eq_trimChars.symm

theorem trimChars_trimChars (cs : List Char) : trimChars (trimChars cs) = trimChars cs :=
  trimChars_eq_self (trims_trimChars cs).first (trims_trimChars cs).last

theorem trimChars_of_isVisible {cs : List Char} (visible : Url.IsVisible cs) :
    trimChars cs = cs := by
  have seen : ∀ c ∈ cs, isBlank c = false := by
    intro c member
    obtain ⟨above, below⟩ := visible c member
    simp [isBlank, inRanges, blankRanges]
    omega
  exact trimChars_eq_self (fun c begins => seen c (List.mem_of_head? begins))
    fun c ends => seen c (List.mem_of_getLast? ends)

end Text

namespace Catalog

/-- The schemes of sources on the web. -/
def IsWeb (scheme : List Char) : Prop :=
  scheme = ['h', 't', 't', 'p'] ∨ scheme = ['h', 't', 't', 'p', 's']

theorem IsWeb.special {scheme : List Char} (web : IsWeb scheme) : Url.kind scheme = .special := by
  rcases web with rfl | rfl <;> decide

theorem isWebRoot_iff {root : List Char} :
    Source.isWebRoot root = true ↔
      ∃ scheme rest, IsWeb scheme ∧ root = scheme ++ ':' :: '/' :: '/' :: rest := by
  simp only [Source.isWebRoot, Bool.or_eq_true, List.isPrefixOf_iff_prefix]
  constructor
  · intro begins
    rcases begins with ⟨rest, rfl⟩ | ⟨rest, rfl⟩
    · exact ⟨_, rest, .inl rfl, rfl⟩
    · exact ⟨_, rest, .inr rfl, rfl⟩
  · intro begins
    obtain ⟨scheme, rest, web, same⟩ := begins
    rcases web with rfl | rfl
    · exact .inl ⟨rest, same.symm⟩
    · exact .inr ⟨rest, same.symm⟩

/-- A root on the web is read with the scheme that it begins with. -/
theorem isWeb_of_parse {root : List Char} (begins : Source.isWebRoot root = true) {url : Url}
    (read : Url.parse root = .ok url) : IsWeb url.scheme := by
  obtain ⟨scheme, rest, web, rfl⟩ := isWebRoot_iff.mp begins
  have marked : ∀ c ∈ scheme ++ [':'], Url.isEdge c = false := by
    refine List.forall_mem_append.mpr ⟨(Url.isVisible_of_special web.special).not_isEdge, ?_⟩
    simp [Url.isEdge]
  have stripped := Url.strip_append (by simp) marked ('/' :: '/' :: rest)
  rw [List.append_assoc, List.singleton_append, List.append_assoc, List.singleton_append]
    at stripped
  simp only [Url.parse, stripped, Url.scheme?_of_special web.special, Url.withScheme,
    web.special] at read
  obtain ⟨-, -, -, same, -⟩ := Url.of_afterSlashes read
  exact same ▸ web

/-- The standard of URLs, which sets no limit to the length of a label, is followed for the host of a
source: it has no label of more characters than are ever read. -/
def Source.followsStandard : Source → Bool
  | .web root => !(root.authority.map (·.host.isLong)).getD false
  | _ => true

section Canonical

variable {url : Url} {authority : Url.Authority} {directory : List (List Char)}
  (canonical : url.IsCanonical authority (directory ++ [[]]))
include canonical

theorem withTrailingSlash_of_isCanonical : url.withTrailingSlash = url := by
  simp [Url.withTrailingSlash, canonical.route]

theorem getLast?_of_isCanonical : url.route.render.getLast? = some '/' := by
  rw [canonical.route]
  simp [Url.Route.render]

/-- A URL that ends in a slash names its own source, as far as the standard is followed. -/
theorem ofRoot_of_isCanonical (web : IsWeb url.scheme) :
    Source.ofRoot (Source.web url).root =
      if (Source.web url).followsStandard then .ok (.web url)
      else .error (.invalidRoot
        ((Source.web url).root ++ ": " ++ Url.Error.invalidDomain.message)) := by
  have trimmed : Text.trimChars (Source.web url).root.toList = url.render := by
    rw [Source.root, String.toList_ofList]
    exact Text.trimChars_of_isVisible canonical.isVisible_render
  have begins : Source.isWebRoot url.render = true :=
    isWebRoot_iff.mpr ⟨url.scheme, _, web, canonical.render_eq⟩
  have filled : url.render.isEmpty = false := by
    rw [canonical.render_eq]
    simp
  have standard : (Source.web url).followsStandard = !authority.host.isLong := by
    simp [Source.followsStandard, canonical.server]
  have read := canonical.parse_render
  rw [standard, Source.ofRoot, trimmed]
  simp only [filled, begins, Bool.false_eq_true, ↓reduceIte, Source.ofUrl, String.toList_ofList,
    read]
  cases authority.host.isLong with
  | true => rfl
  | false => simp [withTrailingSlash_of_isCanonical canonical]

end Canonical

/-- What a source on the web is made of. -/
theorem exists_isCanonical_of_ofUrl {text : String} (begins : Source.isWebRoot text.toList = true)
    {source : Source} (made : Source.ofUrl text = .ok source) :
    ∃ url authority directory, source = .web url ∧ IsWeb url.scheme ∧
      url.IsCanonical authority (directory ++ [[]]) := by
  unfold Source.ofUrl at made
  split at made
  · rename_i url read
    cases made
    have web := isWeb_of_parse begins read
    obtain ⟨authority, segments, canonical⟩ := Url.exists_isCanonical_of_parse read web.special
    obtain ⟨directory, closed⟩ := canonical.withTrailingSlash
    exact ⟨_, authority, directory, rfl, (Url.scheme_withTrailingSlash url).symm ▸ web, closed⟩
  · cases made

theorem ofRoot_directory {text : String} {path : Path}
    (trimmed : Text.trimChars text.toList = path) (filled : path ≠ [])
    (other : Source.isWebRoot path = false) : Source.ofRoot text = .ok (.directory path) := by
  simp [Source.ofRoot, trimmed, filled, other]

/-- A source is named by the root that it reports, assuming that the standard is followed for its
URL; where it is not, the root is refused. A root on the web is one whose path ends in a slash, and
any other root is a directory. -/
theorem reported_root_names_source {text : String} {source : Source}
    (accepted : Source.ofRoot text = .ok source) :
    (Source.ofRoot source.root =
      if source.followsStandard then .ok source
      else .error (.invalidRoot (source.root ++ ": " ++ Url.Error.invalidDomain.message))) ∧
    (Source.isWebRoot (Text.trimChars text.toList) = true →
      ∃ url, source = .web url ∧ IsWeb url.scheme ∧ url.route.render.getLast? = some '/') ∧
    (Source.isWebRoot (Text.trimChars text.toList) = false →
      source = .directory (Text.trimChars text.toList)) := by
  have filled : Text.trimChars text.toList ≠ [] := by
    intro empty
    simp [Source.ofRoot, empty] at accepted
  cases begins : Source.isWebRoot (Text.trimChars text.toList) with
  | true =>
    have made : Source.ofUrl (String.ofList (Text.trimChars text.toList)) = .ok source := by
      simpa [Source.ofRoot, filled, begins] using accepted
    have same : (String.ofList (Text.trimChars text.toList)).toList = Text.trimChars text.toList :=
      String.toList_ofList
    obtain ⟨url, authority, directory, rfl, web, canonical⟩ :=
      exists_isCanonical_of_ofUrl (same.symm ▸ begins) made
    exact ⟨ofRoot_of_isCanonical canonical web,
      fun _ => ⟨url, rfl, web, getLast?_of_isCanonical canonical⟩, nofun⟩
  | false =>
    rw [ofRoot_directory rfl filled begins] at accepted
    cases accepted
    have same : Text.trimChars (Source.directory (Text.trimChars text.toList)).root.toList =
        Text.trimChars text.toList := by
      rw [Source.root, String.toList_ofList, Text.trimChars_trimChars]
    exact ⟨ofRoot_directory same filled begins, nofun, fun _ => rfl⟩

/-- A URL with all its parts, none of them in the form in which it is reported. -/
theorem reported_root_names_source_of_full_url :
    ∃ url, Source.ofRoot " \thttp://me:p@ss@[2001:DB8:0:0:1:0:0:1]:80/a/./b/../c d?x y#z \n" =
        .ok (.web url) ∧
      (Source.web url).root = "http://me:p%40ss@[2001:db8::1:0:0:1]/a/c%20d/?x%20y#z" ∧
      Source.ofRoot (Source.web url).root = .ok (.web url) := by
  let url : Url :=
    { scheme := "http".toList
      authority := some
        { username := "me".toList, password := some "p%40ss".toList
          host := .ipv6 [0x2001, 0xDB8, 0, 0, 1, 0, 0, 1] }
      route := .hierarchy ["a".toList, "c%20d".toList, []]
      query := some "x%20y".toList
      fragment := some "z".toList }
  have accepted : Source.ofRoot
      " \thttp://me:p@ss@[2001:DB8:0:0:1:0:0:1]:80/a/./b/../c d?x y#z \n" = .ok (.web url) := rfl
  exact ⟨url, accepted, rfl, (reported_root_names_source accepted).1⟩

end Catalog

end Scratchpad
