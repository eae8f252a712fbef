import Mathlib.Data.List.TakeWhile
import Scratchpad.Proofs.Url.Encode
import Scratchpad.Proofs.Url.Segment
import Scratchpad.Url.Parse

/-!
# Paths, queries and fragments are read back

What is left of a path when it was read has no dots, no slashes inside its segments and nothing to
encode, and so it is read as it is written. The same goes for a query and a fragment. None of the
parts contains a mark at which one of the others begins.
-/

set_option autoImplicit false

namespace Scratchpad.Url

/-! ## Paths -/

/-- Segments in the form in which they are read. -/
structure IsPath (segments : List (List Char)) : Prop where
  filled : segments ≠ []
  settled : ∀ segment ∈ segments, Settled pathSet segment
  unslashed : ∀ segment ∈ segments, ∀ c ∈ segment, isSlash .special c = false
  undotted : ∀ segment ∈ segments, isDoubleDot segment = false ∧ isSingleDot segment = false

theorem isSlash_percentEncode {cs : List Char} {set : Char → Bool}
    (free : ∀ c ∈ cs, isSlash .special c = false) :
    ∀ c ∈ percentEncode set cs, isSlash .special c = false := by
  have digits : ∀ n < 16, isSlash .special (upperHexDigit n) = false := by decide
  intro c member
  rcases mem_percentEncode member with ⟨present, -⟩ | rfl | ⟨n, small, rfl⟩
  · exact free c present
  · rfl
  · exact digits n small

theorem isPath_resolve (path : List Char) :
    IsPath (resolve .special [] (written .special path)) := by
  have shape : resolve .special [] (written .special path) =
      descend .special [] (written .special path) := rfl
  have encoded : ∀ segment ∈ written .special path, Settled pathSet segment ∧
      ∀ c ∈ segment, isSlash .special c = false := by
    intro segment member
    obtain ⟨part, present, rfl⟩ := List.mem_map.mp member
    exact ⟨settled_percentEncode isEncodeSet_path part,
      isSlash_percentEncode (Text.not_separates_of_mem_split present)⟩
  have origin : ∀ segment ∈ descend .special [] (written .special path), segment = [] ∨
      segment ∈ written .special path ∧ isDoubleDot segment = false ∧
        isSingleDot segment = false := by
    intro segment member
    rcases mem_descend member with absent | empty | found
    · cases absent
    · exact .inl empty
    · exact .inr found
  rw [shape]
  constructor
  case filled => exact descend_ne_nil _ _ (written_ne_nil _ _)
  case settled =>
    intro segment member
    rcases origin segment member with rfl | ⟨present, -⟩
    · exact fun c none => nomatch none
    · exact (encoded segment present).1
  case unslashed =>
    intro segment member
    rcases origin segment member with rfl | ⟨present, -⟩
    · exact fun c none => nomatch none
    · exact (encoded segment present).2
  case undotted =>
    intro segment member
    rcases origin segment member with rfl | ⟨-, undotted⟩
    · exact ⟨rfl, rfl⟩
    · exact undotted

namespace IsPath

variable {segments : List (List Char)} (path : IsPath segments)
include path

theorem append_empty : IsPath (segments ++ [[]]) where
  filled := List.append_ne_nil_of_left_ne_nil path.filled _
  settled := List.forall_mem_append.mpr ⟨path.settled, by simp [Settled]⟩
  unslashed := List.forall_mem_append.mpr ⟨path.unslashed, by simp⟩
  undotted := List.forall_mem_append.mpr ⟨path.undotted, by simp [isDoubleDot, isSingleDot, isDot]⟩

/-- A path is its segments, each after a slash, and the first slash is not looked at. -/
theorem exists_render : ∃ text, (Route.hierarchy segments).render = '/' :: text ∧
    Text.split (isSlash .special) text = segments := by
  obtain ⟨first, rest, rfl⟩ := List.exists_cons_of_ne_nil path.filled
  exact ⟨_, render_hierarchy_cons first rest, Text.split_append_flatMap rfl path.unslashed⟩

theorem resolve_written {text : List Char}
    (parted : Text.split (isSlash .special) text = segments) :
    resolve .special [] (written .special text) = segments := by
  have same : written .special text = segments := by
    rw [written, parted]
    refine (List.map_congr_left fun segment member => ?_).trans (List.map_id segments)
    exact percentEncode_of_settled (path.settled segment member)
  have shape : resolve .special [] (written .special text) =
      descend .special [] (written .special text) := rfl
  rw [shape, same, descend_of_no_dots [] path.undotted, List.nil_append]

theorem mem_render {c : Char} (member : c ∈ (Route.hierarchy segments).render) :
    c = '/' ∨ pathSet c = false ∧ c.toNat ≤ 0x7F := by
  obtain ⟨segment, present, inside⟩ := List.mem_flatMap.mp member
  rcases List.mem_cons.mp inside with slash | within
  · exact .inl slash
  · exact .inr (path.settled segment present c within)

end IsPath

/-! ## Queries and fragments -/

/-- A query and a fragment in the form in which they are read. -/
structure IsTail (query fragment : Option (List Char)) : Prop where
  query : ∀ text, query = some text → Settled specialQuerySet text
  fragment : ∀ text, fragment = some text → Settled fragmentSet text

theorem isTail_tail (text : List Char) :
    IsTail (tail .special text).1 (tail .special text).2 := by
  have query (text : List Char) : Settled specialQuerySet (percentEncode specialQuerySet text) :=
    settled_percentEncode isEncodeSet_query text
  have fragment (text : List Char) : Settled fragmentSet (percentEncode fragmentSet text) :=
    settled_percentEncode isEncodeSet_fragment text
  have special : (Kind.special == Kind.other) = false := rfl
  simp only [tail, special, Bool.false_eq_true, ↓reduceIte]
  split
  · rename_i rest
    cases rest.dropWhile (· != '#') with
    | nil => exact ⟨fun _ same => Option.some.inj same ▸ query _, nofun⟩
    | cons c after =>
      exact ⟨fun _ same => Option.some.inj same ▸ query _,
        fun _ same => Option.some.inj same ▸ fragment _⟩
  · exact ⟨nofun, fun _ same => Option.some.inj same ▸ fragment _⟩
  · exact ⟨nofun, nofun⟩

namespace IsTail

variable {query fragment : Option (List Char)} (parts : IsTail query fragment)
include parts

theorem tail_render :
    tail .special (renderPart '?' query ++ renderPart '#' fragment) = (query, fragment) := by
  have fragment_eq : ∀ text, fragment = some text → percentEncode fragmentSet text = text :=
    fun text given => percentEncode_of_settled (parts.fragment text given)
  cases query with
  | none =>
    cases fragment with
    | none => rfl
    | some text => exact congrArg (fun text => (none, some text)) (fragment_eq text rfl)
  | some asked =>
    have settled := parts.query asked rfl
    have unmarked : ∀ c ∈ asked, (c != '#') = true := by
      intro c member
      refine bne_iff_ne.mpr fun same => ?_
      rw [same] at member
      have kept := (settled '#' member).1
      cases kept
    have query_eq : percentEncode specialQuerySet asked = asked := percentEncode_of_settled settled
    cases fragment with
    | none =>
      simp only [renderPart, List.append_nil, tail, List.takeWhile_eq_self_iff.mpr unmarked,
        List.dropWhile_eq_nil_iff.mpr unmarked]
      exact congrArg (fun text => (some text, none)) query_eq
    | some text =>
      obtain ⟨front, back⟩ := Text.span_append_mark unmarked (bne_self_eq_false '#') text
      simp only [renderPart, List.cons_append, tail, front, back, fragment_eq text rfl]
      exact congrArg (fun asked => (some asked, some text)) query_eq

/-- Nothing but a query or a fragment begins behind a path. -/
theorem dropWhile_tail :
    (renderPart '?' query ++ renderPart '#' fragment).dropWhile (fun c => c != '?' && c != '#') =
      renderPart '?' query ++ renderPart '#' fragment := by
  cases query with
  | none =>
    cases fragment with
    | none => rfl
    | some text => simp [renderPart]
  | some asked => simp [renderPart]

end IsTail

/-! ## Both -/

theorem cutPath_append {text after : List Char}
    (unmarked : ∀ c ∈ text, (c != '?' && c != '#') = true)
    (marked : after.dropWhile (fun c => c != '?' && c != '#') = after) :
    cutPath (text ++ after) = (text, after) := by
  have none : after.takeWhile (fun c => c != '?' && c != '#') = [] := by
    have whole := List.takeWhile_append_dropWhile (p := fun c => c != '?' && c != '#') (l := after)
    rw [marked] at whole
    exact List.append_left_eq_self.mp whole
  rw [cutPath, List.takeWhile_append_of_pos unmarked, List.dropWhile_append_of_pos unmarked, none,
    marked, List.append_nil]

/-- What is written after an authority is read as it was. -/
theorem complete_render {scheme : List Char} (special : kind scheme = .special)
    (authority : Option Authority) {segments : List (List Char)} (path : IsPath segments)
    {query fragment : Option (List Char)} (parts : IsTail query fragment) :
    complete scheme authority [] (dropSlash .special ((Route.hierarchy segments).render ++
        (renderPart '?' query ++ renderPart '#' fragment))) =
      { scheme, authority, route := .hierarchy segments, query, fragment } := by
  obtain ⟨text, written, parted⟩ := path.exists_render
  have unmarked : ∀ c ∈ text, (c != '?' && c != '#') = true := by
    intro c member
    have inside : c ∈ (Route.hierarchy segments).render := written ▸ List.mem_cons_of_mem _ member
    rcases path.mem_render inside with rfl | ⟨kept, -⟩
    · rfl
    · simp only [pathSet, Bool.or_eq_false_iff, List.contains_eq_mem, decide_eq_false_iff_not,
        List.mem_cons, not_or] at kept
      simp [kept.2.1, kept.2.2.1]
  have after : dropSlash .special ((Route.hierarchy segments).render ++
      (renderPart '?' query ++ renderPart '#' fragment)) =
      text ++ (renderPart '?' query ++ renderPart '#' fragment) := by
    rw [written]
    rfl
  simp only [after, complete, cutPath_append unmarked parts.dropWhile_tail, special,
    parts.tail_render, path.resolve_written parted]

end Scratchpad.Url
