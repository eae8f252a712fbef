import Mathlib.Data.List.Forall2
import Scratchpad.Catalog.Source
import Scratchpad.Proofs.Json.Compact
import Scratchpad.Proofs.Wire.Fields

/-!
# Manifests

Which JSON texts are manifests, said over the values that they hold. A manifest is an array, and
each of its items describes one example: as an object that gives its two texts once each, among
whatever else, or as an array of just the two. The catalog lists the examples as they are
described, and a single item that describes none leaves no catalog at all.
-/

set_option autoImplicit false

namespace Scratchpad.Catalog

open Json

/-! ## Entries -/

/-- What it is for a value to describe an example. -/
inductive Describes : Value → Example → Prop where
  | object {members name file} : Gives members "name" (some (.string name)) →
      Gives members "file" (some (.string file)) → Describes (.object members) ⟨name, file⟩
  | array {name file} : Describes (.array [.string name, .string file]) ⟨name, file⟩

namespace Example

theorem found_object_iff {members : List (String × Value)} {entry : Example} :
    found read (.object members) = some entry ↔
      Gives members "name" (some (.string entry.name)) ∧
        Gives members "file" (some (.string entry.file)) := by
  have text (name text : String) : field? name (found Draft.text) members = some (some text) ↔
      Gives members name ((some text).map .string) :=
    field?_of_written fun _ _ => found_text_iff
  simp only [found_object, Option.bind_eq_bind, Option.bind_eq_some_iff]
  constructor
  · rintro ⟨_, named, _, filed, name, rfl, file, rfl, ⟨⟩⟩
    exact ⟨(text _ _).mp named, (text _ _).mp filed⟩
  · rintro ⟨named, filed⟩
    exact ⟨_, (text _ _).mpr named, _, (text _ _).mpr filed, _, rfl, _, rfl, rfl⟩

theorem found_array_iff {items : List Value} {entry : Example} :
    found read (.array items) = some entry ↔
      items = [.string entry.name, .string entry.file] := by
  have texts (first second : Value) : found read (.array [first, second]) =
      (found Draft.text first).bind fun name => (found Draft.text second).map (⟨name, ·⟩) := by
    rw [read, Shape.found_array]
    simp only [shape, fillEach, Field.of, found_map]
    cases found Draft.text first <;> cases found Draft.text second <;> rfl
  rcases items with _ | ⟨first, _ | ⟨second, _ | ⟨third, rest⟩⟩⟩
  · constructor <;> intro given <;> cases given
  · refine ⟨fun reads => ?_, fun listed => by cases listed⟩
    rw [read, Shape.found_array] at reads
    simp [shape, fillEach, Field.of] at reads
  · simp only [texts, Option.bind_eq_some_iff, Option.map_eq_some_iff, found_text_iff,
      List.cons.injEq, and_true]
    constructor
    · rintro ⟨name, rfl, file, rfl, rfl⟩
      exact ⟨rfl, rfl⟩
    · rintro ⟨rfl, rfl⟩
      exact ⟨_, rfl, _, rfl, rfl⟩
  · refine ⟨fun reads => ?_, fun listed => by cases listed⟩
    rw [read, Shape.found_array] at reads
    simp [shape, fillEach, Field.of] at reads

theorem found_read_iff {value : Value} {entry : Example} :
    found read value = some entry ↔ Describes value entry := by
  cases value with
  | object members =>
    rw [found_object_iff]
    constructor
    · rintro ⟨name, file⟩
      exact .object name file
    · rintro ⟨⟩
      next name file => exact ⟨name, file⟩
  | array items =>
    rw [found_array_iff]
    constructor
    · rintro rfl
      exact .array
    · rintro ⟨⟩
      rfl
  | null | boolean | number | string => exact ⟨nofun, nofun⟩

end Example

/-! ## Whole manifests -/

theorem found_list_iff {items : List Value} {entries : List Example} :
    found (Draft.list Example.read) (.array items) = some entries ↔
      List.Forall₂ Describes items entries := by
  rw [found_list]
  induction items generalizing entries with
  | nil => simp [eq_comm]
  | cons item items ih =>
    simp only [List.mapM_cons, Option.bind_eq_bind, Option.bind_eq_some_iff, ih,
      Example.found_read_iff, List.forall₂_cons_left_iff]
    constructor
    · rintro ⟨entry, here, rest, further, ⟨⟩⟩
      exact ⟨entry, rest, here, further, rfl⟩
    · rintro ⟨entry, rest, here, further, rfl⟩
      exact ⟨entry, here, rest, further, rfl⟩

theorem exists_forall₂_iff {items : List Value} :
    (∃ entries, List.Forall₂ Describes items entries) ↔
      ∀ item ∈ items, ∃ entry, Describes item entry := by
  induction items with
  | nil => simp
  | cons item items ih =>
    simp only [List.forall₂_cons_left_iff, List.forall_mem_cons, ← ih]
    constructor
    · rintro ⟨entries, entry, rest, here, further, rfl⟩
      exact ⟨⟨entry, here⟩, rest, further⟩
    · rintro ⟨⟨entry, here⟩, rest, further⟩
      exact ⟨entry :: rest, entry, rest, here, further, rfl⟩

/-- A text that was fetched is a catalog if a list of examples is found in the value that it holds,
and otherwise it is refused as a manifest. -/
theorem ofManifest_of_holds {text : String} {value : Value} (holds : Holds text value) :
    (∀ entries, ofManifest (.ok text) = .ok entries ↔
      found (Draft.list Example.read) value = some entries) ∧
    (found (Draft.list Example.read) value = none →
      ∃ report, ofManifest (.ok text) = .error (.manifest report)) := by
  have reads : (readManifest text).toOption = found (Draft.list Example.read) value :=
    (faithful_list Example.lawful.faithful_read).read holds
  have parsed : ofManifest (.ok text) =
      (readManifest text).mapError fun fault => .manifest (fault.message text.toList) := rfl
  rw [← reads, parsed]
  cases readManifest text with
  | ok entries => simp [Except.mapError]
  | error fault => exact ⟨fun entries => ⟨nofun, nofun⟩, fun _ => ⟨_, rfl⟩⟩

/-- A text that holds an array is a catalog exactly if each item describes an example, and lists
these examples in order. If one item describes none, or the text holds anything else, it is refused
as a manifest. -/
theorem manifest_lists_examples (text : String) :
    (∀ items, Holds text (.array items) →
      ((∃ entries, ofManifest (.ok text) = .ok entries) ↔
        ∀ item ∈ items, ∃ entry, Describes item entry) ∧
      (∀ entries, ofManifest (.ok text) = .ok entries → List.Forall₂ Describes items entries) ∧
      ((∃ item ∈ items, ∀ entry, ¬ Describes item entry) →
        ∃ report, ofManifest (.ok text) = .error (.manifest report))) ∧
    ∀ value, Holds text value → (∀ items, value ≠ .array items) →
      ∃ report, ofManifest (.ok text) = .error (.manifest report) := by
  constructor
  · intro items holds
    obtain ⟨accepts, refuses⟩ := ofManifest_of_holds holds
    simp only [accepts, found_list_iff]
    refine ⟨exists_forall₂_iff, fun entries listed => listed, ?_⟩
    rintro ⟨item, inside, none⟩
    refine refuses (Option.eq_none_iff_forall_ne_some.mpr fun entries listed => ?_)
    obtain ⟨entry, described⟩ :=
      exists_forall₂_iff.mp ⟨entries, found_list_iff.mp listed⟩ item inside
    exact none entry described
  · intro value holds other
    exact (ofManifest_of_holds holds).2 (found_list_of_not_array _ other)

/-- Both ways to describe an example, one of them with its texts in the other order and among other
members. A third item without a file spoils the manifest, and so does an object in its place. -/
theorem manifest_lists_examples_of_both_forms :
    let items : List Value :=
      [.object [("file", .string "\"é\n"), ("tags", .array [.null]), ("name", .string "Twice")],
        .array [.string "Twice", .string ""]]
    let spoilt := items ++ [.object [("name", .string "Twice"), ("File", .string "a")]]
    Holds (Value.array items).compact (.array items) ∧
      ofManifest (.ok (Value.array items).compact) = .ok [⟨"Twice", "\"é\n"⟩, ⟨"Twice", ""⟩] ∧
      Holds (Value.array spoilt).compact (.array spoilt) ∧
      (∃ report, ofManifest (.ok (Value.array spoilt).compact) = .error (.manifest report)) ∧
      Holds (Value.object []).compact (.object []) ∧
      ∃ report, ofManifest (.ok (Value.object []).compact) = .error (.manifest report) := by
  intro items spoilt
  have listed : Holds (Value.array items).compact (.array items) :=
    Value.Exact.holds (by simp [items, Value.Exact, Value.MembersExact, Value.ItemsExact])
  have broken : Holds (Value.array spoilt).compact (.array spoilt) :=
    Value.Exact.holds (by simp [spoilt, items, Value.Exact, Value.MembersExact, Value.ItemsExact])
  have single : Holds (Value.object []).compact (.object []) :=
    Value.Exact.holds (by simp [Value.Exact, Value.MembersExact])
  refine ⟨listed, ?_, broken, ?_, single, ?_⟩
  · obtain ⟨accepts, lists, -⟩ := (manifest_lists_examples _).1 items listed
    obtain ⟨entries, made⟩ := accepts.mpr (by
      simp only [items, List.forall_mem_cons, List.not_mem_nil, IsEmpty.forall_iff, implies_true,
        and_true]
      exact ⟨⟨_, .object rfl rfl⟩, ⟨_, .array⟩⟩)
    obtain ⟨first, _, name_file, further, rfl⟩ :=
      List.forall₂_cons_left_iff.mp (lists entries made)
    obtain ⟨second, _, texts, last, rfl⟩ := List.forall₂_cons_left_iff.mp further
    rw [made]
    cases last
    cases texts
    cases name_file with
    | object name file =>
      cases name
      cases file
      rfl
  · refine ((manifest_lists_examples _).1 spoilt broken).2.2 ⟨_, List.mem_append_right _
      List.mem_cons_self, ?_⟩
    rintro entry ⟨⟩
    next name file => cases file
  · refine (manifest_lists_examples _).2 _ single fun items same => ?_
    cases same

end Scratchpad.Catalog
