import Scratchpad.Json.Read
import Scratchpad.Proofs.Json.Scalar

/-!
# Drafts of written values

The draft of a text that begins with a value shows that value: every fault-free draft is one of
exactly the texts that the grammar allows. Readers can then be understood by the values that drafts
show, and need not be followed through the text again.

The number of steps that reading is given is four for each character. What is left of a text is
always shorter than the text, so this bound is kept from the outside to the inside.
-/

set_option autoImplicit false

namespace Scratchpad.Json

mutual

/-- The draft shows a value without any fault, with a text after it. -/
inductive Draft.Shows : Draft → Value → List Char → Prop where
  | null {start after} : Draft.Shows (.null start after) .null after
  | boolean {start value after} : Draft.Shows (.boolean start value after) (.boolean value) after
  | number {start value after} : Draft.Shows (.number start value after) (.number value) after
  | string {start value after} : Draft.Shows (.string start value after) (.string value) after
  | array {start items values after} : Items.Show items values after →
      Draft.Shows (.array start items (.ok after)) (.array values) after
  | object {start members values after} : Members.Show members values after →
      Draft.Shows (.object start members (.ok after)) (.object values) after

inductive Items.Show : Items → List Value → List Char → Prop where
  | close {after} : Items.Show (.close after) [] after
  | item {item value mid items values after} : Draft.Shows item value mid →
      Items.Show items values after → Items.Show (.item item items) (value :: values) after

inductive Members.Show : Members → List (String × Value) → List Char → Prop where
  | close {after} : Members.Show (.close after) [] after
  | member {key colon member value mid members values after} : Draft.Shows member value mid →
      Members.Show members values after →
      Members.Show (.member (.ok key) colon member members) ((key, value) :: values) after

end

theorem Draft.Shows.ending {draft : Draft} {value : Value} {after : List Char}
    (shows : draft.Shows value after) : draft.ending = .ok after := by
  cases shows <;> rfl

theorem Items.Show.ending {items : Items} {after : List Char} :
    ∀ {values : List Value}, items.Show values after → items.ending = .ok after
  | [], .close => rfl
  | _ :: _, .item here others => by
    rw [Items.ending, here.ending]
    exact others.ending

theorem Members.Show.ending {members : Members} {after : List Char} :
    ∀ {values : List (String × Value)}, members.Show values after → members.ending = .ok after
  | [], .close => rfl
  | (_, _) :: _, .member here others => by
    rw [Members.ending, here.ending]
    exact others.ending

/-! ## First characters -/

theorem isSpace_of_numeral {c : Char} (leads : (c == '-' || isDigit c) = true) :
    isSpace c = false := by
  cases space : isSpace c with
  | false => rfl
  | true =>
    simp only [isSpace, Bool.or_eq_true, beq_iff_eq] at space
    rcases space with ((rfl | rfl) | rfl) | rfl <;> exact absurd leads (by decide)

theorem isNumeric_of_isSpace {c : Char} (space : isSpace c = true) : isNumeric c = false := by
  simp only [isSpace, Bool.or_eq_true, beq_iff_eq] at space
  rcases space with ((rfl | rfl) | rfl) | rfl <;> decide

/-- A text of blanks before a mark does not go on with a numeral. -/
theorem Blanks.stops {cs rest : List Char} (blanks : Blanks cs rest)
    (stops : Stops isNumeric rest) : Stops isNumeric cs := by
  cases blanks with
  | none => exact stops
  | more space _ => exact .cons (isNumeric_of_isSpace space) _

theorem NumeralText.head {numeral : Numeral} {body : List Char} (text : NumeralText numeral body) :
    ∃ c tail, body = c :: tail ∧ (c == '-' || isDigit c) = true := by
  cases text with
  | @of negative whole fraction exponent point scale are _ _ _ =>
    cases negative with
    | true => exact ⟨'-', _, rfl, rfl⟩
    | false =>
      obtain ⟨some, digits⟩ := are
      cases whole with
      | nil => exact absurd rfl some
      | cons d whole =>
        refine ⟨d, _, rfl, ?_⟩
        simp [digits d List.mem_cons_self]

/-- A value begins with a token, and is written there without the blanks before it. -/
theorem Written.token {cs rest : List Char} {value : Value} (written : Written cs value rest) :
    ∃ c tail, skipSpace cs = c :: tail ∧ c ≠ ']' ∧ Written (c :: tail) value rest := by
  cases written with
  | null blanks => exact ⟨_, _, blanks.skipSpace_cons (by decide), by decide, .null .none⟩
  | yes blanks => exact ⟨_, _, blanks.skipSpace_cons (by decide), by decide, .yes .none⟩
  | no blanks => exact ⟨_, _, blanks.skipSpace_cons (by decide), by decide, .no .none⟩
  | number blanks text value =>
    obtain ⟨c, tail, rfl, leads⟩ := text.head
    refine ⟨c, _, blanks.skipSpace_cons (isSpace_of_numeral leads), ?_, .number .none text value⟩
    rintro rfl
    exact absurd leads (by decide)
  | string blanks letters =>
    exact ⟨_, _, blanks.skipSpace_cons (by decide), by decide, .string .none letters⟩
  | array blanks inside =>
    exact ⟨_, _, blanks.skipSpace_cons (by decide), by decide, .array .none inside⟩
  | object blanks inside =>
    exact ⟨_, _, blanks.skipSpace_cons (by decide), by decide, .object .none inside⟩

theorem WrittenItems.stops {cs rest : List Char} {items : List Value}
    (written : WrittenItems false cs items rest) : Stops isNumeric cs := by
  cases written with
  | close blanks => exact blanks.stops (.cons (by decide) _)
  | item lead _ _ =>
    cases lead with
    | comma blanks => exact blanks.stops (.cons (by decide) _)

theorem WrittenMembers.stops {cs rest : List Char} {members : List (String × Value)}
    (written : WrittenMembers false cs members rest) : Stops isNumeric cs := by
  cases written with
  | close blanks => exact blanks.stops (.cons (by decide) _)
  | member lead _ _ _ _ _ =>
    cases lead with
    | comma blanks => exact blanks.stops (.cons (by decide) _)

/-! ## One step of reading -/

namespace Draft

theorem read_numeral {cs tail : List Char} {c : Char} (skipped : skipSpace cs = c :: tail)
    (leads : (c == '-' || isDigit c) = true) (steps : Nat) :
    read (steps + 1) cs = ofNumeral (c :: tail) := by
  have other : ∀ d, (d == '-' || isDigit d) = false → ∀ rest, c :: tail ≠ d :: rest := by
    rintro d different rest ⟨⟩
    cases leads.symm.trans different
  rw [read]
  simp only [skipped]
  split
  · next same => cases same
  iterate 6
    · next same => exact absurd same (other _ (by decide) _)
  · next same =>
    cases same
    exact if_pos leads

theorem readItems_lead {first : Bool} {cs start tail : List Char} {c : Char}
    (lead : Lead first cs start) (skipped : skipSpace start = c :: tail) (opens : c ≠ ']')
    (steps : Nat) :
    readItems (steps + 1) first cs =
      .item (read steps (c :: tail)) (followItems steps (read steps (c :: tail)).ending) := by
  cases lead with
  | first =>
    rw [readItems, skipped]
    split
    · next same => cases same
    · next same =>
      cases same
      exact absurd rfl opens
    · next same =>
      cases same
      rfl
  | comma blanks =>
    rw [readItems, blanks.skipSpace_cons (by decide)]
    split
    · next same => cases same
    · next same => cases same
    · next same =>
      cases same
      simp only [Bool.false_eq_true, ↓reduceIte, beq_self_eq_true]
      rw [skipped]
      split
      · next same =>
        cases same
        exact absurd rfl opens
      · rfl

theorem readMembers_lead {first : Bool} {cs start body : List Char} (lead : Lead first cs start)
    (skipped : skipSpace start = '"' :: body) (steps : Nat) :
    readMembers (steps + 1) first cs = readMember steps ('"' :: body) := by
  cases lead with
  | first => simp [readMembers, skipped]
  | comma blanks => simp [readMembers, blanks.skipSpace_cons (by decide), skipped]

theorem readMember_written {body colon value : List Char} {key : String}
    (letters : Letters body key.toList colon) (blanks : Blanks colon (':' :: value))
    (steps : Nat) :
    readMember (steps + 1) ('"' :: body) =
      .member (.ok key) (':' :: value) (read steps value)
        (followMembers steps (read steps value).ending) := by
  simp only [readMember, letters.unquote_eq, letters.pass_eq,
    blanks.skipSpace_cons (by decide), Except.map, String.ofList_toList]

end Draft

/-! ## From the text to the draft -/

section Reading

open Draft (readItems readMembers followItems followMembers)

mutual

theorem Written.read {cs rest : List Char} {steps : Nat} :
    ∀ {value : Value}, Written cs value rest → Stops isNumeric rest →
      4 * cs.length ≤ steps + 4 * rest.length → (Draft.read steps cs).Shows value rest
  | value, written, stops, enough => by
    have shorter := written.length_lt
    obtain ⟨steps, rfl⟩ : ∃ fewer, steps = fewer + 1 := ⟨steps - 1, by omega⟩
    match value, written with
    | .null, .null blanks =>
      simp only [Draft.read, blanks.skipSpace_cons (by decide), Draft.literal, beq_self_eq_true,
        ↓reduceIte]
      exact .null
    | .boolean true, .yes blanks =>
      simp only [Draft.read, blanks.skipSpace_cons (by decide), Draft.literal, beq_self_eq_true,
        ↓reduceIte]
      exact .boolean
    | .boolean false, .no blanks =>
      simp only [Draft.read, blanks.skipSpace_cons (by decide), Draft.literal, beq_self_eq_true,
        ↓reduceIte]
      exact .boolean
    | .number n, .number blanks text value =>
      have whole := Numeral.read_append text stops
      obtain ⟨c, tail, rfl, leads⟩ := text.head
      rw [List.cons_append] at blanks whole
      rw [Draft.read_numeral (blanks.skipSpace_cons (isSpace_of_numeral leads)) leads,
        Draft.ofNumeral, whole]
      simp only [value]
      exact .number
    | .string text, .string blanks letters =>
      simp only [Draft.read, blanks.skipSpace_cons (by decide), Draft.ofQuoted, letters.unquote_eq,
        String.ofList_toList]
      exact .string
    | .array items, .array blanks inside =>
      have start := blanks.length_le
      rw [List.length_cons] at start
      have shown : (readItems steps true _).Show items rest := inside.read (by omega)
      simp only [Draft.read, blanks.skipSpace_cons (by decide), shown.ending]
      exact .array shown
    | .object members, .object blanks inside =>
      have start := blanks.length_le
      rw [List.length_cons] at start
      have shown : (readMembers steps true _).Show members rest := inside.read (by omega)
      simp only [Draft.read, blanks.skipSpace_cons (by decide), shown.ending]
      exact .object shown

theorem WrittenItems.read {first : Bool} {cs rest : List Char} {steps : Nat} :
    ∀ {items : List Value}, WrittenItems first cs items rest →
      4 * cs.length ≤ steps + 4 * rest.length → (Draft.readItems steps first cs).Show items rest
  | [], .close blanks, enough => by
    have shorter := blanks.length_le
    rw [List.length_cons] at shorter
    obtain ⟨steps, rfl⟩ : ∃ fewer, steps = fewer + 1 := ⟨steps - 1, by omega⟩
    simp only [readItems, blanks.skipSpace_cons (by decide)]
    exact .close
  | item :: items, .item lead here others, enough => by
    have before := lead.length_le
    have within := here.length_lt
    have beyond := others.length_lt
    obtain ⟨c, tail, skipped, opens, token⟩ := here.token
    have skips := length_le_of_skipSpace skipped
    obtain ⟨steps, rfl⟩ : ∃ fewer, steps = fewer + 2 := ⟨steps - 2, by omega⟩
    have shown : (Draft.read (steps + 1) (c :: tail)).Shows item _ :=
      token.read others.stops (by omega)
    have further : (readItems steps false _).Show items rest := others.read (by omega)
    rw [Draft.readItems_lead lead skipped opens, shown.ending, followItems]
    exact .item shown further

theorem WrittenMembers.read {first : Bool} {cs rest : List Char} {steps : Nat} :
    ∀ {members : List (String × Value)}, WrittenMembers first cs members rest →
      4 * cs.length ≤ steps + 4 * rest.length →
      (Draft.readMembers steps first cs).Show members rest
  | [], .close blanks, enough => by
    have shorter := blanks.length_le
    rw [List.length_cons] at shorter
    obtain ⟨steps, rfl⟩ : ∃ fewer, steps = fewer + 1 := ⟨steps - 1, by omega⟩
    simp only [readMembers, blanks.skipSpace_cons (by decide)]
    exact .close
  | (key, value) :: members, .member lead quote letters colon here others, enough => by
    have before := lead.length_le
    have opening := quote.length_le
    have closing := letters.length_lt
    have marked := colon.length_le
    have within := here.length_lt
    have beyond := others.length_lt
    simp only [List.length_cons] at opening marked
    -- The steps before those of the value are paid for by the quotes and the colon.
    obtain ⟨steps, rfl⟩ : ∃ fewer, steps = fewer + 3 := ⟨steps - 3, by omega⟩
    have shown : (Draft.read (steps + 1) _).Shows value _ := here.read others.stops (by omega)
    have further : (readMembers steps false _).Show members rest := others.read (by omega)
    rw [Draft.readMembers_lead lead (quote.skipSpace_cons (by decide)),
      Draft.readMember_written letters colon, shown.ending, followMembers]
    exact .member shown further

end

end Reading

theorem Holds.draft {text : String} {value : Value} (holds : Holds text value) :
    ∃ after, (Draft.ofText text.toList).Shows value after ∧ Blanks after [] := by
  obtain ⟨rest, written, blanks⟩ := holds
  have stops : Stops isNumeric ([] : List Char) := fun _ none => nomatch none
  exact ⟨rest, written.read (blanks.stops stops) (by omega), blanks⟩

end Scratchpad.Json
