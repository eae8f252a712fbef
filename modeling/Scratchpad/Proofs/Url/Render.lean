import Scratchpad.Proofs.Url.Host
import Scratchpad.Proofs.Url.Join

/-!
# URLs are read back

A URL of a special scheme that was read has all of its parts in the form in which they are
written. Such a URL is read as itself from its text, unless its host is too long to be read.
-/

set_option autoImplicit false

namespace Scratchpad.Url

/-! ## What is read -/

/-- The parts of a URL of a special scheme, in the form in which they are read. -/
structure IsCanonical (url : Url) (authority : Authority) (segments : List (List Char)) :
    Prop where
  special : kind url.scheme = .special
  server : url.authority = some authority
  settled : authority.IsSettled url.scheme
  host : authority.host.IsRead
  route : url.route = .hierarchy segments
  path : IsPath segments
  tail : IsTail url.query url.fragment

theorem isCanonical_complete {scheme : List Char} (special : kind scheme = .special)
    {authority : Authority} (settled : authority.IsSettled scheme) (host : authority.host.IsRead)
    (text : List Char) :
    ∃ segments, IsCanonical (complete scheme (some authority) [] text) authority segments := by
  refine ⟨_, special, rfl, settled, host, rfl, ?_, ?_⟩
  · rw [special]
    exact isPath_resolve _
  · simp only [complete, special]
    exact isTail_tail _

theorem exists_isCanonical_of_parse {text : List Char} {url : Url} (read : parse text = .ok url)
    (special : kind url.scheme = .special) :
    ∃ authority segments, url.IsCanonical authority segments := by
  obtain ⟨cs, authority, rest, front, shape⟩ := of_parse read special
  obtain ⟨⟨host, parsed⟩, settled⟩ := of_readAuthority special front
  obtain ⟨segments, canonical⟩ := isCanonical_complete special settled
    (Host.isRead_of_parse parsed) (dropSlash .special rest)
  exact ⟨authority, segments, shape ▸ canonical⟩

theorem IsCanonical.withTrailingSlash {url : Url} {authority : Authority}
    {segments : List (List Char)} (canonical : url.IsCanonical authority segments) :
    ∃ closed, url.withTrailingSlash.IsCanonical authority (closed ++ [[]]) := by
  obtain ⟨special, server, settled, host, route, path, tail⟩ := canonical
  unfold Url.withTrailingSlash
  rw [route]
  dsimp only
  split
  · rename_i slash
    obtain ⟨front, rfl⟩ := List.getLast?_eq_some_iff.mp (eq_of_beq slash)
    exact ⟨front, special, server, settled, host, route, path, tail⟩
  · refine ⟨segments, special, server, settled, host, ?_, path.append_empty, tail⟩
    simp [closed, special]

/-! ## What is written -/

theorem mem_defaultPorts_of_special {scheme : List Char} (special : kind scheme = .special) :
    scheme ∈ defaultPorts.map (·.1) := by
  unfold kind at special
  split at special
  · cases special
  split at special
  · rename_i given
    obtain ⟨entry, listed, same⟩ := List.lookup_isSome_iff.mp given
    exact List.mem_map.mpr ⟨entry, listed, (eq_of_beq same).symm⟩
  · cases special

theorem scheme?_of_special {scheme : List Char} (special : kind scheme = .special)
    (rest : List Char) : scheme? (scheme ++ ':' :: rest) = some (scheme, rest) := by
  have listed := mem_defaultPorts_of_special special
  simp only [defaultPorts, List.map_cons, List.map_nil, List.mem_cons, List.not_mem_nil,
    or_false] at listed
  rcases listed with rfl | rfl | rfl | rfl | rfl <;> rfl

theorem isVisible_of_special {scheme : List Char} (special : kind scheme = .special) :
    IsVisible scheme := by
  have listed := mem_defaultPorts_of_special special
  simp only [defaultPorts, List.map_cons, List.map_nil, List.mem_cons, List.not_mem_nil,
    or_false] at listed
  rcases listed with rfl | rfl | rfl | rfl | rfl <;> simp [IsVisible]

theorem IsVisible.not_isEdge {cs : List Char} (visible : IsVisible cs) :
    ∀ c ∈ cs, isEdge c = false := by
  intro c member
  exact decide_eq_false (Nat.not_le.mpr (visible c member).1)

theorem isVisible_nil : IsVisible [] :=
  fun _ none => nomatch none

theorem afterSlashes_of_special {scheme : List Char} (special : kind scheme = .special)
    (cs : List Char) :
    afterSlashes scheme cs = (readAuthority scheme cs).map fun found =>
      complete scheme (some found.1) [] (dropSlash .special found.2) := by
  unfold afterSlashes
  cases readAuthority scheme cs with
  | error error => rfl
  | ok found =>
    simp only [bind, Except.bind, special]
    rfl

theorem parse_of_special {scheme : List Char} (special : kind scheme = .special)
    {cs : List Char} (visible : ∀ c ∈ cs, isEdge c = false)
    (begins : cs.dropWhile isAnySlash = cs) :
    parse (scheme ++ ':' :: '/' :: '/' :: cs) = afterSlashes scheme cs := by
  have whole : ∀ c ∈ scheme ++ ':' :: '/' :: '/' :: cs, isEdge c = false := by
    simp only [List.forall_mem_append, List.forall_mem_cons]
    exact ⟨(isVisible_of_special special).not_isEdge, rfl, rfl, rfl, visible⟩
  have slashes : ('/' :: '/' :: cs).dropWhile isAnySlash = cs.dropWhile isAnySlash := rfl
  simp only [parse, strip_of_no_edge whole, scheme?_of_special special, withScheme, special,
    slashes, begins]

theorem isVisible_renderPart {mark : Char} (marked : 0x20 < mark.toNat ∧ mark.toNat < 0x7F)
    {part : Option (List Char)} (inside : ∀ text, part = some text → IsVisible text) :
    IsVisible (renderPart mark part) := by
  cases part with
  | none => exact isVisible_nil
  | some text => exact List.forall_mem_cons.mpr ⟨marked, inside text rfl⟩

theorem IsTail.isVisible {query fragment : Option (List Char)} (parts : IsTail query fragment) :
    IsVisible (renderPart '?' query ++ renderPart '#' fragment) := by
  refine List.forall_mem_append.mpr ⟨?_, ?_⟩
  · exact isVisible_renderPart (by decide) fun text given =>
      (parts.query text given).isVisible isEncodeSet_query
  · exact isVisible_renderPart (by decide) fun text given =>
      (parts.fragment text given).isVisible isEncodeSet_fragment

theorem IsPath.isVisible {segments : List (List Char)} (path : IsPath segments) :
    IsVisible (Route.hierarchy segments).render := by
  intro c member
  obtain ⟨segment, present, inside⟩ := List.mem_flatMap.mp member
  rcases List.mem_cons.mp inside with rfl | within
  · decide
  · exact (path.settled segment present).isVisible isEncodeSet_path c within

theorem isVisible_renderPort (authority : Authority) : IsVisible authority.renderPort := by
  have digits : ∀ d < 10, 0x20 < d.digitChar.toNat ∧ d.digitChar.toNat < 0x7F := by decide
  unfold Authority.renderPort
  split
  · refine List.forall_mem_cons.mpr ⟨by decide, fun c member => ?_⟩
    obtain ⟨d, small, rfl⟩ := exists_of_mem_toDigits (by decide) member
    exact digits d small
  · exact isVisible_nil

section Parts

variable {scheme : List Char} {authority : Authority} (settled : authority.IsSettled scheme)
include settled

theorem isVisible_renderUser : IsVisible authority.renderUser := by
  have username := settled.username.isVisible isEncodeSet_userinfo
  unfold Authority.renderUser
  split
  · rename_i password given
    have guarded := (settled.password password given).2.isVisible isEncodeSet_userinfo
    simp only [IsVisible, List.forall_mem_append, List.forall_mem_cons]
    exact ⟨⟨username, by decide, guarded⟩, by decide, isVisible_nil⟩
  · split
    · exact isVisible_nil
    · simp only [IsVisible, List.forall_mem_append, List.forall_mem_cons]
      exact ⟨username, by decide, isVisible_nil⟩

theorem dropWhile_slash_renderUser {text : List Char} (host : IsHostText text)
    (rest : List Char) : (authority.renderUser ++ (text ++ rest)).dropWhile isAnySlash =
      authority.renderUser ++ (text ++ rest) := by
  have begins {front : List Char} (filled : front ≠ [])
      (unended : ∀ c ∈ front, endsAuthority .special c = false) (back : List Char) :
      (front ++ back).dropWhile isAnySlash = front ++ back := by
    obtain ⟨c, front, rfl⟩ := List.exists_cons_of_ne_nil filled
    have other : isAnySlash c = false := by
      refine Bool.eq_false_iff.mpr fun slash => ?_
      have ends : endsAuthority .special c = true := by
        simp_all [endsAuthority, isSlash, isAnySlash]
      rw [unended c List.mem_cons_self] at ends
      cases ends
    simp [other]
  rcases renderUser_cases settled with ⟨unwritten, -⟩ | ⟨named, written, filled, closed, -⟩
  · rw [unwritten]
    exact begins host.filled host.unended rest
  · rw [written, List.append_assoc named]
    exact begins filled closed _

end Parts

/-- A URL is read as it is put together, with the host that is read from its text. -/
theorem parse_written {scheme : List Char} (special : kind scheme = .special)
    {authority : Authority} (settled : authority.IsSettled scheme) {text : List Char}
    (host : IsHostText text) (visible : ∀ c ∈ text, isEdge c = false)
    {segments : List (List Char)} (path : IsPath segments) {query fragment : Option (List Char)}
    (parts : IsTail query fragment) :
    parse (scheme ++ ':' :: '/' :: '/' :: (authority.renderUser ++ (text ++ (authority.renderPort ++
        ((Route.hierarchy segments).render ++
          (renderPart '?' query ++ renderPart '#' fragment)))))) =
      (Host.parse text).map fun host =>
        { scheme, authority := some { authority with host }, route := .hierarchy segments, query,
          fragment } := by
  have completes (host : Host) := complete_render special (some { authority with host }) path parts
  have begins := dropWhile_slash_renderUser settled host
  have whole : ∀ c ∈ authority.renderUser ++ (text ++ (authority.renderPort ++
      ((Route.hierarchy segments).render ++ (renderPart '?' query ++ renderPart '#' fragment)))),
      isEdge c = false := by
    refine List.forall_mem_append.mpr ⟨(isVisible_renderUser settled).not_isEdge, ?_⟩
    refine List.forall_mem_append.mpr ⟨visible, ?_⟩
    refine List.forall_mem_append.mpr ⟨(isVisible_renderPort authority).not_isEdge, ?_⟩
    exact List.forall_mem_append.mpr ⟨path.isVisible.not_isEdge, parts.isVisible.not_isEdge⟩
  rw [parse_of_special special whole (begins _), afterSlashes_of_special special]
  obtain ⟨more, written, -⟩ := path.exists_render
  rw [written] at completes ⊢
  rw [List.cons_append] at completes ⊢
  rw [readAuthority_render special settled host]
  cases Host.parse text with
  | error error => rfl
  | ok found => exact congrArg Except.ok (completes found)

namespace IsCanonical

variable {url : Url} {authority : Authority} {segments : List (List Char)}
  (canonical : url.IsCanonical authority segments)
include canonical

theorem render_eq :
    url.render = url.scheme ++ ':' :: '/' :: '/' :: (authority.renderUser ++ (authority.host.render ++
      (authority.renderPort ++ ((Route.hierarchy segments).render ++
        (renderPart '?' url.query ++ renderPart '#' url.fragment))))) := by
  simp [render, renderOrigin, renderGuard, canonical.server, canonical.route, Authority.render]

theorem parts_eq :
    { scheme := url.scheme, authority := some authority, route := .hierarchy segments,
      query := url.query, fragment := url.fragment : Url } = url := by
  rw [← canonical.server, ← canonical.route]

/-- A URL is read as it is written, unless its host is too long to be read. -/
theorem parse_render :
    parse url.render = if authority.host.isLong then .error .invalidDomain else .ok url := by
  have read := canonical.host
  rw [canonical.render_eq, parse_written canonical.special canonical.settled
    (Host.isHostText_render read) (Host.isVisible_render read).not_isEdge canonical.path
    canonical.tail, Host.parse_render read]
  split
  · rfl
  · exact congrArg Except.ok canonical.parts_eq

theorem isVisible_render : IsVisible url.render := by
  rw [canonical.render_eq]
  refine List.forall_mem_append.mpr ⟨isVisible_of_special canonical.special, ?_⟩
  simp only [List.forall_mem_cons]
  refine ⟨by decide, by decide, by decide, ?_⟩
  refine List.forall_mem_append.mpr ⟨isVisible_renderUser canonical.settled, ?_⟩
  refine List.forall_mem_append.mpr ⟨Host.isVisible_render canonical.host, ?_⟩
  refine List.forall_mem_append.mpr ⟨isVisible_renderPort authority, ?_⟩
  exact List.forall_mem_append.mpr ⟨canonical.path.isVisible, canonical.tail.isVisible⟩

end IsCanonical

end Scratchpad.Url
