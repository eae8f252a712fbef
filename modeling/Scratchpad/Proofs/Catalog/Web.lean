import Mathlib.Data.List.Chain
import Scratchpad.Catalog.Source
import Scratchpad.Proofs.Catalog.Directory
import Scratchpad.Proofs.Url.Join

/-!
# Sources on the web

A path is looked at as it is written, and what is left of it is read as a URL afterwards. The two
do not agree on what a path says: controls at its start, tabs inside it, encoded dots and a
scheme without slashes are seen only by the second. So a path that passes may still lead out of
the root, and this module says exactly which paths do.

The URL of a path is the first that is asked for. Others follow only where servers redirect to, so
the requests for a path stay below the root as long as its URL and the redirects do.
-/

set_option autoImplicit false

namespace Scratchpad

namespace Url

/-! ## Roots -/

/-- A URL lies below a root: it has the same scheme, host and port, and its path begins with the
path of the root. -/
structure Contains (root url : Url) : Prop where
  scheme : url.scheme = root.scheme
  host : url.authority.map (·.host) = root.authority.map (·.host)
  port : url.authority.map (·.port) = root.authority.map (·.port)
  path : root.route.render <+: url.route.render

/-- What is known of the root of a source on the web. -/
structure IsRoot (root : Url) : Prop where
  special : kind root.scheme = .special
  closed : root.route = .hierarchy (root.directory ++ [[]])
  segmented : IsSegmented root.directory

/-- Whether a path that is followed from a directory leads to a place below the root. -/
def isAbove (root : Url) (directory : List (List Char)) (text : List Char) : Bool :=
  root.directory.isPrefixOf
    (descend .special directory (written .special (cutPath text).1)).dropLast

/-- Whether a reference stays below the root. The path of another scheme never does, and one that
names a server has to name that of the root. -/
def Reference.staysBelow (root : Url) : Reference → Bool
  | .foreign _ => false
  | .server text =>
    match readAuthority root.scheme text with
    | .ok (authority, rest) =>
      root.authority.map (·.host) == some authority.host &&
        root.authority.map (·.port) == some authority.port &&
        root.isAbove [] (dropSlash .special rest)
    | .error _ => false
  | .top text => root.isAbove [] text
  | .below text => root.isAbove root.directory text
  | .here => true

theorem route_complete {scheme : List Char} (special : kind scheme = .special)
    (authority : Option Authority) (directory : List (List Char)) (text : List Char) :
    (complete scheme authority directory text).route =
      .hierarchy (descend .special directory (written .special (cutPath text).1)) := by
  simp [complete, resolve, special]

namespace IsRoot

variable {root : Url} (valid : root.IsRoot)
include valid

theorem isPrefix_complete_iff {directory : List (List Char)} (start : IsSegmented directory)
    (authority : Option Authority) (text : List Char) :
    root.route.render <+: (complete root.scheme authority directory text).route.render ↔
      root.isAbove directory text = true := by
  have clean : IsSegmented (descend .special directory (written .special (cutPath text).1)) :=
    isSegmented_descend _ start (isSegmented_written _ _)
  rw [valid.closed, route_complete valid.special, isAbove, List.isPrefixOf_iff_prefix]
  exact render_closed_isPrefix_iff valid.segmented clean (descend_ne_nil _ _ (written_ne_nil _ _))

theorem contains_complete_iff {directory : List (List Char)} (start : IsSegmented directory)
    {authority : Option Authority} (text : List Char)
    (host : authority.map (·.host) = root.authority.map (·.host))
    (port : authority.map (·.port) = root.authority.map (·.port)) :
    root.Contains (complete root.scheme authority directory text) ↔
      root.isAbove directory text = true := by
  rw [← valid.isPrefix_complete_iff start authority text]
  exact ⟨fun inside => inside.path, fun path => ⟨rfl, host, port, path⟩⟩

/-- What a reference leads to is below the root exactly if the reference stays there. -/
theorem contains_iff {reference : Reference} {url : Url} (leads : root.Leads reference url) :
    root.Contains url ↔ reference.staysBelow root = true := by
  have empty : IsSegmented [] := by simp [IsSegmented]
  cases leads with
  | foreign other own =>
    constructor
    · intro inside
      exact absurd (own.symm.trans inside.scheme) other
    · intro stays
      cases stays
  | @server text authority rest front =>
    simp only [Reference.staysBelow, front, Bool.and_eq_true, beq_iff_eq]
    constructor
    · intro inside
      have path := (valid.contains_complete_iff empty _ inside.host inside.port).mp inside
      exact ⟨⟨inside.host.symm, inside.port.symm⟩, path⟩
    · rintro ⟨⟨host, port⟩, path⟩
      exact ⟨rfl, host.symm, port.symm, (valid.isPrefix_complete_iff empty _ _).mpr path⟩
  | top => exact valid.contains_complete_iff empty _ rfl rfl
  | below => exact valid.contains_complete_iff valid.segmented _ rfl rfl
  | here => exact ⟨fun _ => rfl, fun _ => ⟨rfl, rfl, rfl, List.prefix_rfl⟩⟩

end IsRoot

theorem route_of_parse {text : List Char} {url : Url} (read : parse text = .ok url)
    (special : kind url.scheme = .special) :
    ∃ segments, url.route = .hierarchy segments ∧ IsSegmented segments := by
  obtain ⟨-, authority, rest, -, shape⟩ := of_parse read special
  have path := congrArg Url.route shape
  rw [route_complete special] at path
  exact ⟨_, path, isSegmented_descend _ (by simp [IsSegmented]) (isSegmented_written _ _)⟩

/-- A slash at the end of a path closes its last segment, unless that is empty already. -/
theorem isRoot_withTrailingSlash {url : Url} (special : kind url.scheme = .special)
    {segments : List (List Char)} (path : url.route = .hierarchy segments)
    (clean : IsSegmented segments) : url.withTrailingSlash.IsRoot := by
  unfold withTrailingSlash
  rw [path]
  dsimp only
  split
  · rename_i slash
    have last : segments.getLast? = some [] := by simpa using slash
    obtain ⟨front, rfl⟩ := List.getLast?_eq_some_iff.mp last
    refine ⟨special, ?_, ?_⟩
    · simp [directory, path]
    · simpa [directory, path] using isSegmented_dropLast clean
  · refine ⟨special, ?_, ?_⟩
    · simp [directory, closed, special]
    · simpa [directory, closed, special] using clean

theorem scheme_withTrailingSlash (url : Url) : url.withTrailingSlash.scheme = url.scheme := by
  unfold withTrailingSlash
  split <;> split <;> rfl

end Url

/-! ## Redirects -/

namespace Web

/-- The requests with which a URL is asked for: the first is for the URL itself, and every other one
is for the URL that the answer to the request before it redirects to. -/
structure Requested (web : Web) (url : Url) (requests : List (List Char)) : Prop where
  first : requests.head? =
    if isSendable url && (web (target url)).isSome then some (target url) else none
  others : requests.IsChain fun earlier later =>
    ∃ next, web earlier = some (.redirect next) ∧ later = target next
  few : requests.length ≤ redirectLimit + 1

/-- What is served below a root redirects to nothing outside it. -/
def KeepsBelow (web : Web) (root : Url) : Prop :=
  ∀ url next, root.Contains url → web (target url) = some (.redirect next) → root.Contains next

/-- The requests of a client that asks for a URL: none, or one that is the last, or one that is
redirected and those for the URL after it. -/
inductive Follows (web : Web) : Nat → Url → List (List Char) → Prop where
  | unsent {redirects url} : Follows web redirects url []
  | last {redirects url} : Follows web redirects url [target url]
  | redirected {redirects url next later} : web (target url) = some (.redirect next) →
      Follows web redirects next later → Follows web (redirects + 1) url (target url :: later)

theorem follows_follow (web : Web) (redirects : Nat) (url : Url) :
    web.Follows redirects url (follow web redirects url).1 := by
  fun_induction follow web redirects url with
  | case1 => exact .unsent
  | case2 => exact .unsent
  | case3 => exact .last
  | case4 => exact .last
  | case5 url sendable next redirected redirects later result answered ih =>
    rw [answered] at ih
    exact .redirected redirected ih

section Follows

variable {web : Web} {redirects : Nat} {url : Url} {requests : List (List Char)}
  (follows : web.Follows redirects url requests)
include follows

theorem Follows.eq_target : ∀ request ∈ requests.head?, request = target url := by
  cases follows <;> simp

theorem Follows.isChain : requests.IsChain fun earlier later =>
    ∃ next, web earlier = some (.redirect next) ∧ later = target next := by
  induction follows with
  | unsent => exact .nil
  | last => exact .singleton _
  | redirected answered more ih =>
    exact ih.cons fun later first => ⟨_, answered, more.eq_target later first⟩

theorem Follows.length_le : requests.length ≤ redirects + 1 := by
  induction follows with
  | unsent => simp
  | last => simp
  | redirected _ _ ih => simpa using ih

/-- What redirects keep of a URL holds of all URLs that are asked for. -/
theorem Follows.exists_of_mem {kept : Url → Prop}
    (keeps : ∀ url next, kept url → web (target url) = some (.redirect next) → kept next)
    (start : kept url) : ∀ request ∈ requests, ∃ asked, kept asked ∧ request = target asked := by
  induction follows with
  | unsent => simp
  | last => exact List.forall_mem_singleton.mpr ⟨_, start, rfl⟩
  | redirected answered _ ih =>
    exact List.forall_mem_cons.mpr ⟨⟨_, start, rfl⟩, ih (keeps _ _ start answered)⟩

end Follows

theorem head?_follow (web : Web) (redirects : Nat) (url : Url) :
    (follow web redirects url).1.head? =
      if isSendable url && (web (target url)).isSome then some (target url) else none := by
  unfold follow
  cases isSendable url with
  | false => rfl
  | true =>
    cases web (target url) with
    | none => rfl
    | some answer =>
      cases answer with
      | response response => rfl
      | redirect next => cases redirects <;> rfl

theorem requested_requests (web : Web) (url : Url) : web.Requested url (web.requests url) where
  first := by rw [requests, head?_follow, isSendable_withoutCredentials, target_withoutCredentials]
  others := (follows_follow web _ _).isChain
  few := (follows_follow web _ _).length_le

theorem contains_withoutCredentials {root url : Url} (inside : root.Contains url) :
    root.Contains (withoutCredentials url) := by
  rcases withoutCredentials_eq url with same | taken
  · rw [same]
    exact inside
  · rw [taken]
    refine ⟨inside.scheme, ?_, ?_, inside.path⟩
    · rw [← inside.host, Url.withoutUser, Option.map_map]
      rfl
    · rw [← inside.port, Url.withoutUser, Option.map_map]
      rfl

/-- A URL below a root is asked for by requests below the root, if redirects stay there. -/
theorem exists_below_of_mem_requests {web : Web} {root url : Url} (keeps : web.KeepsBelow root)
    (inside : root.Contains url) :
    ∀ request ∈ web.requests url, ∃ below, root.Contains below ∧ request = target below :=
  (follows_follow web _ _).exists_of_mem keeps (contains_withoutCredentials inside)

end Web

namespace Catalog

theorem isRoot_of_ofUrl {text : String} {root : Url} (made : Source.ofUrl text = .ok (.web root))
    (special : Url.kind root.scheme = .special) : root.IsRoot := by
  unfold Source.ofUrl at made
  split at made
  · rename_i url read
    cases made
    rw [Url.scheme_withTrailingSlash] at special
    obtain ⟨segments, path, clean⟩ := Url.route_of_parse read special
    exact Url.isRoot_withTrailingSlash special path clean
  · cases made

theorem Source.requests_of_resolve {root url : Url} {path : String}
    (resolved : resolve root path = .ok url) {world : World} :
    requests world (.web root) path = world.web.requests url := by
  simp only [requests, resolved]

/-- A path is resolved to what its text refers to, without the blanks around it and without what
is dropped when it is read. -/
theorem Source.leads_of_resolve {root url : Url} (valid : root.IsRoot) {path : String}
    (resolved : resolve root path = .ok url) :
    root.Leads (Url.reference root.scheme (Url.strip (Text.trimChars path.toList))) url := by
  unfold resolve at resolved
  cases passed : relativePath path with
  | error error => simp [passed, bind, Except.bind] at resolved
  | ok relative =>
    simp only [passed, bind, Except.bind] at resolved
    split at resolved
    · rename_i joined
      cases resolved
      obtain ⟨trimmed, -⟩ := of_relativePath passed
      rw [← trimmed]
      exact Url.join_leads valid.special valid.closed joined
    · cases resolved

/-- A path that is resolved leads to a URL below the root exactly if its text, as it is read, is a
reference that stays there. That URL is asked for first, and others only where servers redirect to.
So if it is below the root, no request leaves the root unless a server there redirects out of it. -/
theorem resolve_below_iff {text path : String} {root url : Url}
    (made : Source.ofUrl text = .ok (.web root))
    (web : root.scheme = ['h', 't', 't', 'p'] ∨ root.scheme = ['h', 't', 't', 'p', 's'])
    (resolved : Source.resolve root path = .ok url) :
    (root.Contains url ↔
      (Url.reference root.scheme (Url.strip (Text.trimChars path.toList))).staysBelow root = true) ∧
    ∀ world : World,
      world.web.Requested url (Source.requests world (.web root) path) ∧
      (root.Contains url → world.web.KeepsBelow root →
        ∀ request ∈ Source.requests world (.web root) path,
          ∃ below, root.Contains below ∧ request = Web.target below) := by
  have special : Url.kind root.scheme = .special := by
    rcases web with same | same <;> rw [same] <;> decide
  have valid := isRoot_of_ofUrl made special
  refine ⟨valid.contains_iff (Source.leads_of_resolve valid resolved), fun world => ?_⟩
  rw [Source.requests_of_resolve resolved]
  exact ⟨Web.requested_requests world.web url,
    fun inside keeps => Web.exists_below_of_mem_requests keeps inside⟩

/-- Encoded dots pass, and are dots when the path is read. What they lead to is asked for. -/
theorem resolve_below_iff_encoded_dots :
    ∃ root url, Source.ofUrl "http://example.org/rufus/examples" = .ok (.web root) ∧
      Source.resolve root "%2e%2e/x" = .ok url ∧
      String.ofList url.render = "http://example.org/rufus/x" ∧ ¬ root.Contains url ∧
      ∀ world : World, (world.web url.render).isSome →
        (Source.requests world (.web root) "%2e%2e/x").head? = some url.render := by
  let root : Url :=
    { scheme := "http".toList
      authority := some { host := .domain "example.org".toList }
      route := .hierarchy ["rufus".toList, "examples".toList, []] }
  let url : Url := { root with route := .hierarchy ["rufus".toList, "x".toList] }
  have made : Source.ofUrl "http://example.org/rufus/examples" = .ok (.web root) := rfl
  have resolved : Source.resolve root "%2e%2e/x" = .ok url := rfl
  obtain ⟨stays, requested⟩ := resolve_below_iff made (.inl rfl) resolved
  refine ⟨root, url, made, resolved, rfl, fun inside => ?_, fun world served => ?_⟩
  · have stayed := stays.mp inside
    revert stayed
    decide
  · have first := (requested world).1.first
    have sent : Web.target url = url.render := rfl
    rw [sent, served] at first
    exact first

end Catalog

end Scratchpad
