import Scratchpad.Proofs.Json.Compact
import Scratchpad.Proofs.Wire.Fields

/-!
# Decoding requests

When an object asks for something, said over its members: under which number, by which command, and
with which arguments. Decoding a text of the object finds exactly that, whatever the order of the
members and whatever else is among them, as long as the object is not nested too deeply.
-/

set_option autoImplicit false

namespace Scratchpad.Host

open Json
open Session (KeyChord)

/-! ## What members ask for -/

/-- The number under which the members want an answer. -/
inductive Numbers (members : List (String × Value)) : Option Nat → Prop where
  | absent : members.lookup "id" = none → Numbers members none
  | null : members.lookup "id" = some .null → Numbers members none
  | number {n} : members.lookup "id" = some (.number (.natural n)) → Numbers members (some n)

/-- A value designates a command by its name or by its place. -/
inductive Command.Designates : Value → Command → Prop where
  | name {name command} : (name, command) ∈ choices → Designates (.string name) command
  | place {index name command} : choices[index]? = some (name, command) →
      Designates (.number (.natural index)) command

/-- A modifier that is left out is not held down. -/
def Modified (members : List (String × Value)) (name : String) (on : Bool) : Prop :=
  members.lookup name = some (.boolean on) ∨ members.lookup name = none ∧ on = false

/-- The arguments of a command, and the request that it is with them. -/
inductive Arguments (members : List (String × Value)) : Command → Request → Prop where
  | getState : Arguments members .getState .getState
  | editProgram {program} : members.lookup "program" = some (.string program) →
      Arguments members .editProgram (.editProgram program)
  | clearOutput : Arguments members .clearOutput .clearOutput
  | listExamples : Arguments members .listExamples .listExamples
  | selectExample {file} : members.lookup "file" = some (.string file) →
      Arguments members .selectExample (.selectExample file)
  | run : Arguments members .run .run
  | keyDown {chord : KeyChord} : members.lookup "key" = some (.string chord.key) →
      Modified members "meta" chord.cmd → Modified members "ctrl" chord.ctrl →
      Modified members "alt" chord.alt → Modified members "shift" chord.shift →
      Arguments members .keyDown (.keyDown chord)
  | loadModule : Arguments members .loadModule .loadModule

/-- The members ask for what is in the envelope. -/
structure Asks (members : List (String × Value)) (envelope : Envelope) : Prop where
  number : Numbers members envelope.id
  request : ∃ value command, members.lookup "command" = some value ∧
    Command.Designates value command ∧ Arguments members command envelope.request

/-! ## Members of one name -/

section Members

variable {members : List (String × Value)} (distinct : (members.map (·.1)).Nodup)
include distinct

theorem numbers_iff {id : Option Nat} :
    (field? "id" (found Draft.natural?) members).map (·.getD none) = some id ↔
      Numbers members id := by
  rw [field?_of_nodup distinct]
  cases here : members.lookup "id" with
  | none =>
    constructor
    · intro same
      cases same
      exact .absent here
    · intro numbers
      cases numbers with
      | absent _ => rfl
      | null there | number there => cases here.symm.trans there
  | some value =>
    constructor
    · intro same
      obtain ⟨held, once, rfl⟩ := Option.map_eq_some_iff.mp same
      obtain ⟨id, reads, rfl⟩ := Option.map_eq_some_iff.mp once
      rcases found_natural?_iff.mp reads with ⟨rfl, rfl⟩ | ⟨n, rfl, rfl⟩
      · exact .null here
      · exact .number here
    · intro numbers
      cases numbers with
      | absent there => cases here.symm.trans there
      | null there | number there =>
        cases here.symm.trans there
        rfl

theorem text_iff {name text : String} :
    (field? name (found Draft.text) members).join = some text ↔
      members.lookup name = some (.string text) := by
  rw [field?_of_nodup distinct]
  cases members.lookup name with
  | none => simp
  | some value =>
    change ((found Draft.text value).map some).join = some text ↔ _
    rw [Option.some.injEq, ← found_text_iff]
    cases found Draft.text value <;> simp

theorem modified_iff {name : String} {on : Bool} :
    (field? name (found Draft.bool) members).map (·.getD false) = some on ↔
      Modified members name on := by
  rw [field?_of_nodup distinct, Modified]
  cases members.lookup name with
  | none => simp [eq_comm]
  | some value => simp [found_bool_iff]

theorem found_chord_iff {chord : KeyChord} :
    found KeyChord.read (.object members) = some chord ↔
      members.lookup "key" = some (.string chord.key) ∧ Modified members "meta" chord.cmd ∧
        Modified members "ctrl" chord.ctrl ∧ Modified members "alt" chord.alt ∧
        Modified members "shift" chord.shift := by
  simp only [← text_iff distinct, ← modified_iff distinct, KeyChord.found_object,
    Option.bind_eq_bind, Option.bind_eq_some_iff, Option.map_eq_some_iff, Option.join_eq_some_iff]
  constructor
  · rintro ⟨_, key, cmd, command, ctrl, control, alt, alternate, shift, shifted, _, rfl, ⟨⟩⟩
    exact ⟨key, ⟨_, command, rfl⟩, ⟨_, control, rfl⟩, ⟨_, alternate, rfl⟩, ⟨_, shifted, rfl⟩⟩
  · obtain ⟨_, _, _, _, _⟩ := chord
    rintro ⟨key, ⟨cmd, command, rfl⟩, ⟨ctrl, control, rfl⟩, ⟨alt, alternate, rfl⟩,
      ⟨shift, shifted, rfl⟩⟩
    exact ⟨_, key, cmd, command, ctrl, control, alt, alternate, shift, shifted, _, rfl, rfl⟩

end Members

namespace Command

theorem named_iff {name : String} {command : Command} :
    named choices name = some command ↔ (name, command) ∈ choices := by
  constructor
  · intro known
    obtain ⟨⟨key, _⟩, first, rfl⟩ := Option.map_eq_some_iff.mp known
    have same : key = name := by simpa using List.find?_some first
    exact same ▸ List.mem_of_find?_eq_some first
  · intro listed
    simp only [choices, List.mem_cons, Prod.mk.injEq, List.not_mem_nil, or_false] at listed
    rcases listed with ⟨rfl, rfl⟩ | ⟨rfl, rfl⟩ | ⟨rfl, rfl⟩ | ⟨rfl, rfl⟩ | ⟨rfl, rfl⟩ |
      ⟨rfl, rfl⟩ | ⟨rfl, rfl⟩ | ⟨rfl, rfl⟩ <;> rfl

theorem toOption_ofIndex_iff {index : Nat} {command : Command} :
    (ofIndex index).toOption = some command ↔ ∃ name, choices[index]? = some (name, command) := by
  unfold ofIndex
  split
  · next name other there => simp [there]
  · next absent => simp [absent]

theorem faithful_read : Faithful read := by
  intro draft other value after beyond shown again
  cases shown with
  | null | boolean | array | object => cases again; rfl
  | string =>
    cases again
    simp only [read, toOption_chosen]
  | @number start n =>
    cases again
    cases n <;> simp [read]

theorem found_read_iff {value : Value} {command : Command} :
    found read value = some command ↔ Designates value command := by
  cases value with
  | string name =>
    simp only [found, Value.draft, read, toOption_chosen, named_iff]
    constructor
    · exact .name
    · intro designated
      cases designated with
      | name listed => exact listed
  | number n =>
    cases n with
    | natural index =>
      simp only [found, Value.draft, read, toOption_mapError, toOption_ofIndex_iff]
      constructor
      · rintro ⟨name, there⟩
        exact .place there
      · intro designated
        cases designated with
        | place there => exact ⟨_, there⟩
    | negative | real => constructor <;> rintro ⟨⟩
  | null | boolean | array | object => constructor <;> rintro ⟨⟩

end Command

/-- A number opens no container, so it is of no account for the nesting. -/
theorem Numbers.shallow_iff {members : List (String × Value)} {id : Option Nat}
    (numbers : Numbers members id) (distinct : (members.map (·.1)).Nodup) :
    (members.all fun member => "id" == member.1 || decide (member.2.depth ≤ nesting - 1)) = true ↔
      (Value.object members).depth ≤ nesting := by
  have scalar : ∀ member ∈ members, "id" = member.1 → member.2.depth ≤ nesting - 1 := by
    rintro ⟨_, value⟩ inside rfl
    have there := lookup_of_mem distinct inside
    cases numbers with
    | absent here => cases here.symm.trans there
    | null here | number here =>
      cases here.symm.trans there
      exact Nat.zero_le _
  have whole : (Value.object members).depth ≤ nesting ↔
      ∀ member ∈ members, member.2.depth ≤ nesting - 1 := by
    rw [← Value.membersDepth_le_iff, Value.depth]
    exact Nat.le_sub_one_iff_lt (by decide) |>.symm
  simp only [whole, List.all_eq_true, Bool.or_eq_true, beq_iff_eq, decide_eq_true_eq]
  constructor
  · intro shallow member inside
    exact (shallow member inside).elim (scalar member inside) (fun bounded => bounded)
  · intro shallow member inside
    exact .inr (shallow member inside)

/-! ## Readers of requests -/

/-- What a member adds to the search for the command. -/
theorem takes_command : Takes Request.command
    (Field.member [.of "command" .required id (fun _ command => some command) Command.read]
      fun _ => true) := by
  intro found key colon draft value after shown
  have reads := Command.faithful_read.toOption_eq shown
  by_cases same : key = "command"
  · subst same
    cases found <;> simp [Request.command, Field.member, Field.of, Field.take, reads]
  · simp [Request.command, Field.member, Field.of, same, Ne.symm same]

theorem takes_member : Takes Envelope.member
    (Field.member [.of "id" .nullable id (fun _ number => some number) Draft.natural?]
      fun value => decide (value.depth ≤ nesting - 1)) := by
  intro id key colon draft value after shown
  have reads := faithful_natural?.toOption_eq shown
  have bounded := shown.toOption_value (nesting - 1)
  by_cases same : key = "id"
  · subst same
    cases id <;> simp [Envelope.member, Field.member, Field.of, Field.take, reads]
  · simp [Envelope.member, Field.member, Field.of, same, Ne.symm same, bounded]

section Decoding

variable {members : Members} {values : List (String × Value)} {after : List Char}
  (shown : members.Show values after)
include shown

theorem toOption_ofCommand_iff (distinct : (values.map (·.1)).Nodup) {command : Command}
    {request : Request} :
    (Request.ofCommand members command).toOption = some request ↔
      Arguments values command request := by
  have argument (name : String) :
      ((argument name).ofMembers members).toOption =
        (field? name (found Draft.text) values).join := by
    rw [(argument_lawful name).toOption_ofMembers_eq_found shown, found_argument]
  cases command with
  | getState | clearOutput | listExamples | run | loadModule =>
    constructor
    · intro same
      cases same
      constructor
    · rintro ⟨⟩
      rfl
  | editProgram =>
    simp only [Request.ofCommand, toOption_map, argument, Option.map_eq_some_iff, text_iff distinct]
    constructor
    · rintro ⟨program, given, rfl⟩
      exact .editProgram given
    · rintro ⟨⟩
      next given => exact ⟨_, given, rfl⟩
  | selectExample =>
    simp only [Request.ofCommand, toOption_map, argument, Option.map_eq_some_iff, text_iff distinct]
    constructor
    · rintro ⟨file, given, rfl⟩
      exact .selectExample given
    · rintro ⟨⟩
      next given => exact ⟨_, given, rfl⟩
  | keyDown =>
    have chord := KeyChord.lawful.toOption_ofMembers_eq_found shown
    change _ = found KeyChord.read _ at chord
    simp only [Request.ofCommand, toOption_map, chord, Option.map_eq_some_iff,
      found_chord_iff distinct]
    constructor
    · rintro ⟨chord, ⟨key, cmd, ctrl, alt, shift⟩, rfl⟩
      exact .keyDown key cmd ctrl alt shift
    · rintro ⟨⟩
      next key cmd ctrl alt shift => exact ⟨_, ⟨key, cmd, ctrl, alt, shift⟩, rfl⟩

theorem toOption_request_iff (distinct : (values.map (·.1)).Nodup) {request : Request} :
    (Request.ofMembers members).toOption = some request ↔
      ∃ value command, values.lookup "command" = some value ∧
        Command.Designates value command ∧ Arguments values command request := by
  have search := shown.toOption_fold takes_command none
  rw [takeAll_single, if_pos (by simp), field?_of_nodup distinct] at search
  simp only [Request.ofMembers, toOption_bind, search]
  cases values.lookup "command" with
  | none => simp
  | some value =>
    simp only [← Command.found_read_iff, ← toOption_ofCommand_iff shown distinct]
    cases read : found Command.read value <;> simp [read]

theorem toOption_envelope_iff (distinct : (values.map (·.1)).Nodup) {start : List Char}
    {ending : Except Fault (List Char)} {envelope : Envelope} :
    (Envelope.read (.object start members ending)).toOption = some envelope ↔
      Asks values envelope ∧ (Value.object values).depth ≤ nesting := by
  obtain ⟨id, request⟩ := envelope
  have search := shown.toOption_fold takes_member none
  rw [takeAll_single] at search
  -- Only the number is read where it stands; of the rest, no more is asked at first than to be JSON.
  have parts : (Envelope.read (.object start members ending)).toOption = some ⟨id, request⟩ ↔
      (values.all fun member => "id" == member.1 || decide (member.2.depth ≤ nesting - 1)) = true ∧
      (field? "id" (found Draft.natural?) values).map (·.getD none) = some id ∧
      (Request.ofMembers members).toOption = some request := by
    simp only [Envelope.read, toOption_bind, toOption_mapError, search]
    split
    · next shallow =>
      simp only [shallow]
      cases field? "id" (found Draft.natural?) values <;>
        cases (Request.ofMembers members).toOption <;>
        simp [pure, Except.pure, Json.toOption_ok]
    · next deep => simp [deep]
  rw [parts, numbers_iff distinct, toOption_request_iff shown distinct]
  constructor
  · rintro ⟨shallow, number, asked⟩
    exact ⟨⟨number, asked⟩, (number.shallow_iff distinct).mp shallow⟩
  · rintro ⟨⟨number, asked⟩, bounded⟩
    exact ⟨(number.shallow_iff distinct).mpr bounded, number, asked⟩

end Decoding

/-! ## Texts of requests -/

/-- Every member of a request is a value, the number of the request among them. -/
theorem value_of_member {id next : Option (Option Nat)} {key : String} {colon : List Char}
    {draft : Draft} (taken : Envelope.member id key colon draft = .ok next) :
    ∃ value, draft.value (nesting - 1) = .ok value := by
  unfold Envelope.member at taken
  split at taken
  · obtain ⟨number, reads, -⟩ := Draft.map_ok taken
    unfold Draft.natural? at reads
    split at reads
    · exact ⟨.null, rfl⟩
    · exact ⟨_, rfl⟩
    · cases reads
    · cases reads
  · cases taken
  · obtain ⟨value, reads, -⟩ := Draft.map_ok taken
    exact ⟨value, reads⟩

theorem memberValues_of_fold {members : Members} {id : Option (Option Nat)}
    {last : Option (Option Nat) × List Char}
    (done : members.fold Envelope.member id = .ok last) :
    ∃ values, Draft.memberValues (nesting - 1) members = .ok values := by
  induction id, members using Members.fold.induct with
  | case1 id after => exact ⟨[], rfl⟩
  | case2 id named colon member rest ih =>
    obtain ⟨key, spelled, done⟩ := Draft.bind_ok done
    obtain ⟨next, taken, done⟩ := Draft.bind_ok done
    obtain ⟨value, reads⟩ := value_of_member taken
    obtain ⟨values, further⟩ := ih next done
    refine ⟨(key, value) :: values, ?_⟩
    rw [Draft.memberValues, spelled, reads, further]
    rfl
  | case3 id found => cases done
  | case4 id flaw => cases done

theorem holds_of_request {text : String} {envelope : Envelope}
    (decoded : Envelope.ofText text = .ok envelope) :
    ∃ members, Holds text (.object members) := by
  obtain ⟨reads, after, ends, blanks⟩ := of_read decoded
  unfold Envelope.read at reads
  split at reads
  · next start members ending drafted =>
    obtain ⟨last, folded, -⟩ := Draft.bind_ok reads
    obtain ⟨values, found⟩ := memberValues_of_fold folded
    have whole : (Draft.ofText text.toList).value nesting = .ok (.object values) := by
      rw [drafted]
      exact congrArg (Except.map Value.object) found
    exact ⟨values, holds_of_value whole ends blanks⟩
  · cases reads

/-- A text is decoded to an envelope only if it is the text of an object, and if no name comes twice
in the object, exactly if its members ask for what is in the envelope and it is not nested too
deeply. -/
theorem request_decoded (text : String) (envelope : Envelope) :
    (Envelope.ofText text = .ok envelope → ∃ members, Holds text (.object members)) ∧
      ∀ members, Holds text (.object members) → (members.map (·.1)).Nodup →
        (Envelope.ofText text = .ok envelope ↔
          Asks members envelope ∧ (Value.object members).depth ≤ nesting) := by
  refine ⟨holds_of_request, fun members holds distinct => ?_⟩
  obtain ⟨after, shown, -⟩ := holds.draft
  rw [← toOption_eq_some_iff, Envelope.ofText, holds.toOption_read]
  generalize Draft.ofText text.toList = draft at shown
  cases shown with
  | object inside => exact toOption_envelope_iff inside distinct

/-- A chord whose command is given by its place, between members that mean nothing to it. -/
theorem request_decoded_shuffled :
    let members : List (String × Value) :=
      [("key", .string "\"\n"), ("file", .array [.object [("id", .null)]]),
        ("ctrl", .boolean true), ("command", .number (.natural 6)),
        ("shift", .boolean false), ("id", .number (.natural 0xFFFFFFFFFFFFFFFF))]
    Holds (Value.object members).compact (.object members) ∧ (members.map (·.1)).Nodup ∧
      Envelope.ofText (Value.object members).compact =
        .ok ⟨some 0xFFFFFFFFFFFFFFFF, .keyDown ⟨"\"\n", false, true, false, false⟩⟩ := by
  intro members
  have holds : Holds (Value.object members).compact (.object members) := by
    refine Value.Exact.holds ?_
    simp [members, Value.Exact, Value.MembersExact, Value.ItemsExact, Number.Exact]
  have distinct : (members.map (·.1)).Nodup := by decide
  refine ⟨holds, distinct, ((request_decoded _ _).2 members holds distinct).mpr ⟨⟨?_, ?_⟩, ?_⟩⟩
  · exact .number rfl
  · exact ⟨_, _, rfl, .place rfl, .keyDown rfl (.inr ⟨rfl, rfl⟩) (.inl rfl) (.inr ⟨rfl, rfl⟩)
      (.inl rfl)⟩
  · decide

end Scratchpad.Host
