import Scratchpad.Proofs.Url.Segment
import Scratchpad.Url.Parse

/-!
# Texts seen from a base

What a text that is read relative to a base of a special scheme can lead to. The text decides
between five kinds of reference before anything else is looked at, and only two of them keep the
directory of the base.
-/

set_option autoImplicit false

namespace Scratchpad.Url

/-- Nothing is dropped from the front of a text that begins without blanks and controls. -/
theorem strip_append {front : List Char} (filled : front ≠ [])
    (free : ∀ c ∈ front, isEdge c = false) (rest : List Char) :
    strip (front ++ rest) =
      front ++ (rest.reverse.dropWhile isEdge).reverse.filter (!isDropped ·) := by
  have kept : ∀ cs : List Char, cs ≠ [] → cs ⊆ front → ∀ more,
      (cs ++ more).dropWhile isEdge = cs ++ more := by
    intro cs some within more
    obtain ⟨c, cs, rfl⟩ := List.exists_cons_of_ne_nil some
    simp [free c (within List.mem_cons_self)]
  have inside := kept front.reverse (by simpa using filled)
    (fun c member => List.mem_reverse.mp member) []
  rw [List.append_nil] at inside
  have back : (front ++ rest).reverse.dropWhile isEdge =
      rest.reverse.dropWhile isEdge ++ front.reverse := by
    rw [List.reverse_append, List.dropWhile_append]
    split
    · rename_i gone
      rw [inside, List.isEmpty_iff.mp gone, List.nil_append]
    · rfl
  -- What is dropped inside a text would be dropped at its ends as well.
  have undropped : ∀ c ∈ front, (!isDropped c) = true := by
    intro c member
    have noEdge := free c member
    cases dropped : isDropped c with
    | false => rfl
    | true =>
      simp only [isDropped, Bool.or_eq_true, beq_iff_eq] at dropped
      rcases dropped with (rfl | rfl) | rfl <;> cases noEdge
  rw [strip, kept front filled (List.Subset.refl front), back, List.reverse_append,
    List.reverse_reverse, List.filter_append, List.filter_eq_self.mpr undropped]

theorem strip_of_no_edge {text : List Char} (free : ∀ c ∈ text, isEdge c = false) :
    strip text = text := by
  cases text with
  | nil => rfl
  | cons c cs =>
    have whole := strip_append (List.cons_ne_nil c cs) free []
    rwa [List.reverse_nil, List.dropWhile_nil, List.reverse_nil, List.filter_nil, List.append_nil]
      at whole

/-! ## References -/

/-- What a text refers to, seen from a base of a special scheme. -/
inductive Reference where
  /-- A URL of another scheme. -/
  | foreign (scheme : List Char)
  /-- A server, with a path on it. -/
  | server (text : List Char)
  /-- A path from the top. -/
  | top (text : List Char)
  /-- A path from the directory of the base. -/
  | below (text : List Char)
  /-- The base itself, up to query and fragment. -/
  | here
  deriving DecidableEq, Repr

/-- The reference of a text without a scheme, or after the scheme of the base. -/
def schemeless : List Char → Reference
  | [] | '?' :: _ | '#' :: _ => .here
  | c :: cs =>
    if !isAnySlash c then .below (c :: cs)
    else if 2 ≤ slashes (c :: cs) then .server ((c :: cs).dropWhile isAnySlash)
    else .top ((c :: cs).dropWhile isAnySlash)

/-- The reference of a text, seen from a base of the given scheme. -/
def reference (scheme cs : List Char) : Reference :=
  match scheme? cs with
  | some (own, rest) => if own == scheme then schemeless rest else .foreign own
  | none => schemeless cs

/-- What a reference leads to. -/
inductive Leads (base : Url) : Reference → Url → Prop where
  | foreign {scheme url} : scheme ≠ base.scheme → url.scheme = scheme →
      Leads base (.foreign scheme) url
  | server {text authority rest} : readAuthority base.scheme text = .ok (authority, rest) →
      Leads base (.server text)
        (complete base.scheme (some authority) [] (dropSlash .special rest))
  | top {text} : Leads base (.top text) (complete base.scheme base.authority [] text)
  | below {text} :
      Leads base (.below text) (complete base.scheme base.authority base.directory text)
  | here {query fragment} : Leads base .here { base with query, fragment }

/-! ## Schemes are kept -/

theorem of_afterSlashes {scheme cs : List Char} {url : Url}
    (read : afterSlashes scheme cs = .ok url) :
    ∃ authority rest, readAuthority scheme cs = .ok (authority, rest) ∧ url.scheme = scheme ∧
      (kind scheme = .special →
        url = complete scheme (some authority) [] (dropSlash .special rest)) := by
  unfold afterSlashes at read
  cases front : readAuthority scheme cs with
  | error error => simp [front, bind, Except.bind] at read
  | ok found =>
    obtain ⟨authority, rest⟩ := found
    refine ⟨authority, rest, rfl, ?_⟩
    simp only [front, bind, Except.bind] at read
    split at read <;> cases read <;> simp_all [complete]

theorem scheme_nonSpecial {scheme cs : List Char} {url : Url}
    (read : nonSpecial scheme cs = .ok url) : url.scheme = scheme := by
  unfold nonSpecial at read
  split at read
  · obtain ⟨_, _, _, same, _⟩ := of_afterSlashes read
    exact same
  · cases read
    rfl
  · cases read
    rfl

theorem eq_fileScheme_of_kind {scheme : List Char} (files : kind scheme = .file) :
    scheme = fileScheme := by
  unfold kind at files
  split at files
  · rename_i same
    exact eq_of_beq same
  · split at files <;> cases files

theorem scheme_fileAfterSlashes {cs : List Char} {url : Url}
    (read : fileAfterSlashes cs = .ok url) : url.scheme = fileScheme := by
  unfold fileAfterSlashes at read
  cases host : fileHost? cs with
  | error error => simp [host, bind, Except.bind] at read
  | ok found =>
    simp only [host, bind, Except.bind] at read
    split at read <;> cases read <;> rfl

theorem scheme_file {cs : List Char} {url : Url} (read : file none cs = .ok url) :
    url.scheme = fileScheme := by
  unfold file at read
  split at read
  · split at read
    · exact scheme_fileAfterSlashes read
    · split at read <;> cases read <;> rfl
  · cases read
    split <;> rfl
  · cases read
    rfl

/-- A URL of a special scheme consists of an authority and of what follows it. -/
theorem of_parse {text : List Char} {url : Url} (read : parse text = .ok url)
    (special : kind url.scheme = .special) :
    ∃ cs authority rest, readAuthority url.scheme cs = .ok (authority, rest) ∧
      url = complete url.scheme (some authority) [] (dropSlash .special rest) := by
  simp only [parse] at read
  split at read
  · rename_i scheme rest found
    unfold withScheme at read
    split at read
    · rw [Option.filter_none] at read
      rw [scheme_file read] at special
      cases special
    · rename_i other
      rw [scheme_nonSpecial read, other] at special
      cases special
    · rename_i own
      obtain ⟨authority, rest, front, same, shape⟩ := of_afterSlashes read
      exact ⟨_, authority, rest, same ▸ front, same ▸ shape own⟩
  · cases read

/-- A slash in place of a server leaves the server without a name. -/
theorem readAuthority_slash {scheme : List Char} (special : kind scheme = .special) {c : Char}
    (slash : isAnySlash c = true) (cs : List Char) :
    readAuthority scheme (c :: cs) = .error .emptyHost := by
  have ends : endsAuthority .special c = true := by
    simp_all [endsAuthority, isSlash, isAnySlash]
  have nobody : splitUser .special (c :: cs) = none := by
    simp [splitUser, ends]
  have nameless : splitHost .special false (c :: cs) = ([], c :: cs) := by
    simp [splitHost, ends]
  have hostless : hostAndPort scheme false (c :: cs) = .error .emptyHost := by
    simp [hostAndPort, special, nameless, bind, Except.bind]
  simp [readAuthority, special, nobody, hostless, bind, Except.bind]

theorem schemeless_slash {c : Char} (slash : isAnySlash c = true) (cs : List Char) :
    schemeless (c :: cs) =
      if 2 ≤ slashes (c :: cs) then .server ((c :: cs).dropWhile isAnySlash)
      else .top ((c :: cs).dropWhile isAnySlash) := by
  have either : c = '/' ∨ c = '\\' := by simpa [isAnySlash] using slash
  rcases either with rfl | rfl <;> rfl

theorem schemeless_of_slashes {cs : List Char} (many : 2 ≤ slashes cs) :
    schemeless cs = .server (cs.dropWhile isAnySlash) := by
  cases cs with
  | nil => simp [slashes] at many
  | cons c cs =>
    cases slash : isAnySlash c with
    | false => simp [slashes, slash] at many
    | true => rw [schemeless_slash slash, if_pos many]

/-! ## Joining -/

section Special

variable {base url : Url} (special : kind base.scheme = .special)
include special

theorem afterSlashes_leads {cs : List Char} (read : afterSlashes base.scheme cs = .ok url) :
    Leads base (.server cs) url := by
  obtain ⟨authority, rest, front, -, shape⟩ := of_afterSlashes read
  rw [shape special]
  exact .server front

/-- Of a server that can be read, all slashes before it have been dropped. -/
theorem dropWhile_slash_of_afterSlashes {cs : List Char}
    (read : afterSlashes base.scheme cs = .ok url) : cs.dropWhile isAnySlash = cs := by
  cases cs with
  | nil => rfl
  | cons c cs =>
    cases slash : isAnySlash c with
    | false => simp [slash]
    | true =>
      obtain ⟨authority, rest, front, -⟩ := of_afterSlashes read
      rw [readAuthority_slash special slash] at front
      cases front

theorem fromSlash_leads {c : Char} {cs : List Char} (slash : isAnySlash c = true)
    (read : fromSlash base (c :: cs) = .ok url) : Leads base (schemeless (c :: cs)) url := by
  unfold fromSlash at read
  split at read
  · -- What follows two plain slashes is read as it stands, further slashes included.
    rename_i rest cut
    have many : 2 ≤ slashes ('/' :: '/' :: rest) := by simp [slashes, isAnySlash]
    have dropped : ('/' :: '/' :: rest).dropWhile isAnySlash = rest.dropWhile isAnySlash := rfl
    rw [cut, schemeless_of_slashes many, dropped, dropWhile_slash_of_afterSlashes special read]
    exact afterSlashes_leads special read
  · split at read
    · rename_i many
      rw [schemeless_of_slashes many]
      exact afterSlashes_leads special read
    · rename_i few
      rw [schemeless_slash slash, if_neg few]
      cases read
      exact .top

omit special in
theorem withTail_leads (base : Url) (cs : List Char) : Leads base .here (base.withTail cs) := by
  unfold withTail
  split
  · exact .here
  · exact .here

theorem relative_leads {cs : List Char} (read : relative base cs = .ok url) :
    Leads base (schemeless cs) url := by
  unfold relative at read
  split at read
  · cases read
    exact withTail_leads base _
  · cases read
    exact withTail_leads base _
  · cases read
    exact withTail_leads base _
  · rename_i c rest query fragment
    split at read
    · rename_i slash
      exact fromSlash_leads special slash read
    · rename_i name
      have shape : schemeless (c :: rest) = .below (c :: rest) := by
        simp [schemeless, name]
      cases read
      rw [shape]
      exact .below

theorem withScheme_leads {scheme cs : List Char}
    (read : withScheme (some base) scheme cs = .ok url) :
    Leads base (if scheme == base.scheme then schemeless cs else .foreign scheme) url := by
  by_cases own : scheme = base.scheme
  · subst own
    rw [if_pos BEq.rfl]
    simp only [withScheme, special, BEq.rfl, Bool.true_and, decide_eq_true_eq] at read
    split at read
    · exact relative_leads special read
    · rename_i many
      rw [schemeless_of_slashes (Nat.not_lt.mp many)]
      exact afterSlashes_leads special read
  · rw [if_neg (by simpa using own)]
    refine .foreign own ?_
    have another : (base.scheme == scheme) = false := by simpa using Ne.symm own
    unfold withScheme at read
    split at read
    · -- A file is relative only to another file.
      rename_i files
      have elsewhere : (some base).filter (·.scheme == fileScheme) = none := by
        have different : base.scheme ≠ fileScheme := by
          intro same
          rw [same] at special
          cases special
        simpa [Option.filter] using different
      rw [elsewhere] at read
      exact (scheme_file read).trans (eq_fileScheme_of_kind files).symm
    · exact scheme_nonSpecial read
    · simp only [another, Bool.false_and, Bool.false_eq_true, ↓reduceIte] at read
      obtain ⟨_, _, _, same, _⟩ := of_afterSlashes read
      exact same

theorem withoutScheme_leads {segments : List (List Char)} (path : base.route = .hierarchy segments)
    {cs : List Char} (read : withoutScheme base cs = .ok url) : Leads base (schemeless cs) url := by
  unfold withoutScheme at read
  split at read
  · cases read
    exact withTail_leads base _
  · rename_i plain _
    rw [path] at plain
    cases plain
  · simp only [special] at read
    exact relative_leads special read

/-- Where a text leads is decided by its reference. -/
theorem join_leads {segments : List (List Char)} (path : base.route = .hierarchy segments)
    {text : List Char} (joined : base.join text = .ok url) :
    Leads base (reference base.scheme (strip text)) url := by
  simp only [join] at joined
  unfold reference
  cases found : scheme? (strip text) with
  | none =>
    rw [found] at joined
    exact withoutScheme_leads special path joined
  | some named =>
    rw [found] at joined
    exact withScheme_leads special joined

end Special

end Scratchpad.Url
