import Scratchpad.Proofs.Json.Compact
import Scratchpad.Proofs.Wire.Fields

/-!
# Round trips over the wire

What the program writes, it reads back: every value of a wire type is read from its own text, from
that of any reordering of the members, and from any other text of these. The reordering may go into
the objects inside the object, so an outcome inside an evaluation may have its text before its
status.
-/

set_option autoImplicit false

namespace Scratchpad

open Json

namespace Json

/-! ## Reordered values -/

mutual

/-- The same value, but for the order of the members of its objects. -/
inductive Reordered : Value → Value → Prop where
  | same {value} : Reordered value value
  | array {items others} : ReorderedItems items others → Reordered (.array items) (.array others)
  | object {members between others} : ReorderedMembers members between → between.Perm others →
      Reordered (.object members) (.object others)

inductive ReorderedItems : List Value → List Value → Prop where
  | nil : ReorderedItems [] []
  | cons {item other items others} : Reordered item other → ReorderedItems items others →
      ReorderedItems (item :: items) (other :: others)

/-- The members one by one, each with its value reordered. -/
inductive ReorderedMembers : List (String × Value) → List (String × Value) → Prop where
  | nil : ReorderedMembers [] []
  | cons {key value other members others} : Reordered value other →
      ReorderedMembers members others →
      ReorderedMembers ((key, value) :: members) ((key, other) :: others)

end

@[simp] theorem reordered_null {other : Value} : Reordered .null other ↔ other = .null := by
  constructor
  · rintro ⟨⟩; rfl
  · rintro rfl; exact .same

@[simp] theorem reordered_boolean {on : Bool} {other : Value} :
    Reordered (.boolean on) other ↔ other = .boolean on := by
  constructor
  · rintro ⟨⟩; rfl
  · rintro rfl; exact .same

@[simp] theorem reordered_string {text : String} {other : Value} :
    Reordered (.string text) other ↔ other = .string text := by
  constructor
  · rintro ⟨⟩; rfl
  · rintro rfl; exact .same

theorem ReorderedMembers.refl (members : List (String × Value)) :
    ReorderedMembers members members := by
  induction members with
  | nil => exact .nil
  | cons member members ih => exact .cons .same ih

@[simp] theorem reordered_object {members : List (String × Value)} {other : Value} :
    Reordered (.object members) other ↔ ∃ between, ReorderedMembers members between ∧
      ∃ others, between.Perm others ∧ other = .object others := by
  constructor
  · intro reordered
    cases reordered with
    | same => exact ⟨members, .refl members, members, .refl members, rfl⟩
    | object inside perm => exact ⟨_, inside, _, perm, rfl⟩
  · rintro ⟨between, inside, others, perm, rfl⟩
    exact .object inside perm

@[simp] theorem reorderedMembers_nil {others : List (String × Value)} :
    ReorderedMembers [] others ↔ others = [] := by
  constructor
  · rintro ⟨⟩; rfl
  · rintro rfl; exact .nil

@[simp] theorem reorderedMembers_cons {key : String} {value : Value}
    {members others : List (String × Value)} :
    ReorderedMembers ((key, value) :: members) others ↔ ∃ other, Reordered value other ∧
      ∃ rest, ReorderedMembers members rest ∧ others = (key, other) :: rest := by
  constructor
  · rintro ⟨⟩
    next here inside => exact ⟨_, here, _, inside, rfl⟩
  · rintro ⟨other, here, rest, inside, rfl⟩
    exact .cons here inside

@[simp] theorem reordered_strings {texts : List String} {other : Value} :
    Reordered (.array (texts.map .string)) other ↔ other = .array (texts.map .string) := by
  have fixed {others : List Value} (inside : ReorderedItems (texts.map .string) others) :
      others = texts.map .string := by
    induction texts generalizing others with
    | nil => cases inside; rfl
    | cons text texts ih =>
      cases inside with
      | cons here rest => rw [reordered_string.mp here, ih rest]; rfl
  constructor
  · intro reordered
    cases reordered with
    | same => rfl
    | array inside => rw [fixed inside]
  · rintro rfl; exact .same

mutual

theorem Reordered.exact : ∀ {value other : Value}, Reordered value other → value.Exact → other.Exact
  | _, _, .same, exact => exact
  | _, _, .array inside, exact => inside.exact exact
  | _, _, .object inside perm, exact => by
    have between := Value.membersExact_iff.mp (inside.exact exact)
    exact Value.membersExact_iff.mpr fun member there => between member (perm.mem_iff.mpr there)

theorem ReorderedItems.exact : ∀ {items others : List Value}, ReorderedItems items others →
    Value.ItemsExact items → Value.ItemsExact others
  | _, _, .nil, exact => exact
  | _, _, .cons here inside, exact => ⟨here.exact exact.1, inside.exact exact.2⟩

theorem ReorderedMembers.exact : ∀ {members others : List (String × Value)},
    ReorderedMembers members others → Value.MembersExact members → Value.MembersExact others
  | _, _, .nil, exact => exact
  | _, _, .cons here inside, exact => ⟨here.exact exact.1, inside.exact exact.2⟩

end

/-! ## Round trips -/

/-- Every value of a type is read from the text that is written for it. -/
structure RoundTrips {α : Type} (toValue : α → Value) (reader : Draft → Except Fault α) : Prop where
  compact (a : α) : read reader (toValue a).compact = .ok a
  reordered {a : α} {other : Value} : Reordered (toValue a) other →
    read reader other.compact = .ok a
  /-- Blanks and other spellings of strings do no harm either. -/
  spelled {a : α} {other : Value} {text : String} : Reordered (toValue a) other →
    Holds text other → read reader text = .ok a

theorem RoundTrips.of {α : Type} {toValue : α → Value} {reader : Draft → Except Fault α}
    (faithful : Faithful reader) (exact : ∀ a, (toValue a).Exact)
    (finds : ∀ {a other}, Reordered (toValue a) other → found reader other = some a) :
    RoundTrips toValue reader := by
  have spelled {a : α} {other : Value} {text : String} (reordered : Reordered (toValue a) other)
      (holds : Holds text other) : read reader text = .ok a := by
    rw [← toOption_eq_some_iff, faithful.read holds, finds reordered]
  have reordered {a : α} {other : Value} (reordered : Reordered (toValue a) other) :
      read reader other.compact = .ok a :=
    spelled reordered (reordered.exact (exact a)).holds
  exact ⟨fun _ => reordered .same, reordered, spelled⟩

end Json

/-! ## The wire types -/

open Value (Exact ItemsExact MembersExact itemsExact_iff)

namespace Catalog.Example

theorem found_reordered {entry : Example} {other : Value}
    (reordered : Reordered entry.toValue other) : found read other = some entry := by
  simp only [toValue, reordered_object, reorderedMembers_cons, reorderedMembers_nil,
    reordered_string, exists_eq_left] at reordered
  obtain ⟨others, perm, rfl⟩ := reordered
  simp only [found_object, ← field?_perm perm]
  rfl

theorem roundTrips : RoundTrips toValue read :=
  .of lawful.faithful_read (fun _ => by simp [toValue, Exact, MembersExact]) found_reordered

end Catalog.Example

namespace Session

namespace KeyChord

theorem found_reordered {chord : KeyChord} {other : Value}
    (reordered : Reordered chord.toValue other) : found read other = some chord := by
  simp only [toValue, reordered_object, reorderedMembers_cons, reorderedMembers_nil,
    reordered_string, reordered_boolean, exists_eq_left] at reordered
  obtain ⟨others, perm, rfl⟩ := reordered
  simp only [found_object, ← field?_perm perm]
  rfl

theorem roundTrips : RoundTrips toValue read :=
  .of lawful.faithful_read (fun _ => by simp [toValue, Exact, MembersExact]) found_reordered

end KeyChord

namespace Notice

theorem found_reordered {notice : Notice} {other : Value}
    (reordered : Reordered notice.toValue other) : found read other = some notice := by
  simp only [toValue, reordered_object, reorderedMembers_cons, reorderedMembers_nil,
    reordered_string, exists_eq_left] at reordered
  obtain ⟨others, perm, rfl⟩ := reordered
  obtain ⟨kind, message⟩ := notice
  simp only [found_object, ← field?_perm perm]
  cases kind <;> rfl

theorem roundTrips : RoundTrips toValue read :=
  .of lawful.faithful_read (fun _ => by simp [toValue, Exact, MembersExact]) found_reordered

end Notice

end Session

namespace Evaluator

theorem eq_or_eq_of_pair_perm {α : Type} {a b : α} {others : List α} (perm : [a, b].Perm others) :
    others = [a, b] ∨ others = [b, a] := by
  have long := perm.length_eq
  match others, long with
  | [c, d], _ =>
    have inside : a ∈ [c, d] := perm.subset List.mem_cons_self
    simp only [List.mem_cons, List.not_mem_nil, or_false] at inside
    rcases inside with rfl | rfl
    · have rest := List.singleton_perm_singleton.mp (List.perm_cons a |>.mp perm)
      exact .inl (by rw [rest])
    · have rest := perm.trans (List.Perm.swap a c [])
      exact .inr (by rw [List.singleton_perm_singleton.mp (List.perm_cons a |>.mp rest)])

namespace Outcome

/-- The status may come before the text or after it. -/
theorem found_reordered {outcome : Outcome} {other : Value} (room : Nat)
    (reordered : Reordered outcome.toValue other) : found (read room) other = some outcome := by
  simp only [toValue, reordered_object, reorderedMembers_cons, reorderedMembers_nil,
    reordered_string, exists_eq_left] at reordered
  obtain ⟨others, perm, rfl⟩ := reordered
  rw [found_object]
  obtain rfl | rfl := eq_or_eq_of_pair_perm perm
  · cases outcome <;> rfl
  · cases outcome <;> rfl

theorem exact_toValue (outcome : Outcome) : outcome.toValue.Exact := by
  simp [toValue, Exact, MembersExact]

theorem roundTrips : RoundTrips toValue (read nesting) :=
  .of (faithful_read nesting) exact_toValue (found_reordered nesting)

end Outcome

namespace Evaluation

theorem found_reordered {evaluation : Evaluation} {other : Value}
    (reordered : Reordered evaluation.toValue other) : found read other = some evaluation := by
  obtain ⟨outcome, output⟩ := evaluation
  have texts {other : Value} : Reordered (.ofText? output) other ↔ other = .ofText? output := by
    cases output <;> simp [Value.ofText?]
  simp only [toValue, reordered_object, reorderedMembers_cons, reorderedMembers_nil, texts,
    exists_eq_left] at reordered
  obtain ⟨_, ⟨inner, moved, rfl⟩, others, perm, rfl⟩ := reordered
  have first : field? "outcome" (found (Outcome.read (nesting - 1)))
      [("outcome", inner), ("output", Value.ofText? output)] = some (some outcome) := by
    change (found _ inner).map some = _
    rw [Outcome.found_reordered _ moved, Option.map_some]
  have second : field? "output" (found Draft.text?)
      [("outcome", inner), ("output", Value.ofText? output)] = some (some output) := by
    cases output <;> rfl
  simp only [found_object, ← field?_perm perm, first, second]
  rfl

theorem exact_toValue (evaluation : Evaluation) : evaluation.toValue.Exact := by
  obtain ⟨outcome, output⟩ := evaluation
  cases output <;> simp [toValue, Value.ofText?, Exact, MembersExact, outcome.exact_toValue]

theorem roundTrips : RoundTrips toValue read :=
  .of lawful.faithful_read exact_toValue found_reordered

end Evaluation

end Evaluator

theorem found_strings (texts : List String) :
    found (Draft.list Draft.text) (.array (texts.map .string)) = some texts :=
  (found_list_of_written fun _ _ => found_text_iff).mpr rfl

theorem EvaluatorSettings.found_reordered {settings : EvaluatorSettings} {other : Value}
    (reordered : Reordered settings.toValue other) : found shape.read other = some settings := by
  simp only [toValue, reordered_object, reorderedMembers_cons, reorderedMembers_nil,
    reordered_string, reordered_strings, exists_eq_left] at reordered
  obtain ⟨others, perm, rfl⟩ := reordered
  have args : field? "args" (found (Draft.list Draft.text))
      [("command", .string settings.command), ("args", .array (settings.args.map .string))] =
        some (some settings.args) := by
    change (found _ _).map some = _
    rw [found_strings, Option.map_some]
  simp only [found_object, ← field?_perm perm, args]
  rfl

namespace Settings

theorem found_reordered {settings : Settings} {other : Value}
    (reordered : Reordered settings.toValue other) : found shape.read other = some settings := by
  simp only [toValue, reordered_object, reorderedMembers_cons, reorderedMembers_nil,
    reordered_string, exists_eq_left] at reordered
  obtain ⟨_, ⟨_, ⟨inner, moved, rfl⟩, rfl⟩, others, perm, rfl⟩ := reordered
  have evaluator : field? "module" (found EvaluatorSettings.shape.read)
      [("examples_root", .string settings.examplesRoot), ("module", inner),
        ("default_program", .string settings.defaultProgram),
        ("log_filter", .string settings.logFilter)] = some (some settings.evaluator) := by
    change (found _ inner).map some = _
    rw [EvaluatorSettings.found_reordered moved, Option.map_some]
  simp only [found_object, ← field?_perm perm, evaluator]
  rfl

theorem exact_toValue (settings : Settings) : settings.toValue.Exact := by
  simp [toValue, EvaluatorSettings.toValue, Exact, MembersExact, itemsExact_iff]

theorem roundTrips : RoundTrips toValue shape.read :=
  .of lawful.faithful_read exact_toValue found_reordered

end Settings

/-- Whatever is sent over the wire is read back as it was, with its members in any order. -/
theorem wire_types_round_trip :
    RoundTrips Catalog.Example.toValue Catalog.Example.read ∧
    RoundTrips Session.KeyChord.toValue Session.KeyChord.read ∧
    RoundTrips Session.Notice.toValue Session.Notice.read ∧
    RoundTrips Evaluator.Outcome.toValue (Evaluator.Outcome.read nesting) ∧
    RoundTrips Evaluator.Evaluation.toValue Evaluator.Evaluation.read ∧
    RoundTrips Settings.toValue Settings.shape.read :=
  ⟨Catalog.Example.roundTrips, Session.KeyChord.roundTrips, Session.Notice.roundTrips,
    Evaluator.Outcome.roundTrips, Evaluator.Evaluation.roundTrips, Settings.roundTrips⟩

end Scratchpad
