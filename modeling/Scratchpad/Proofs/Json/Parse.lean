import Scratchpad.Proofs.Json.Draft

/-!
# Reading values

Reading accepts exactly the texts of the grammar, up to a bound on the nesting of what it reads. In
the one direction, the draft of such a text shows its value (`Holds.draft`) and a reader finds it
there. In the other, a value that is read from a draft stands in the text of the draft: this goes by
induction on the steps of reading, with one statement for each of the functions that cut a text.
-/

set_option autoImplicit false

namespace Scratchpad.Json

/-! ## Results without their faults -/

section Results

variable {ε ε' α β : Type}

theorem toOption_eq_some_iff {result : Except ε α} {a : α} :
    result.toOption = some a ↔ result = .ok a := by
  cases result <;> simp [Except.toOption]

@[simp] theorem toOption_ok (a : α) : (Except.ok a : Except ε α).toOption = some a := rfl

@[simp] theorem toOption_error (fault : ε) :
    (Except.error fault : Except ε α).toOption = none := rfl

@[simp] theorem toOption_bind (result : Except ε α) (next : α → Except ε β) :
    (result >>= next).toOption = result.toOption.bind fun a => (next a).toOption := by
  cases result <;> rfl

@[simp] theorem toOption_map (f : α → β) (result : Except ε α) :
    (result.map f).toOption = result.toOption.map f := by
  cases result <;> rfl

@[simp] theorem toOption_functorMap (f : α → β) (result : Except ε α) :
    (f <$> result).toOption = result.toOption.map f := by
  cases result <;> rfl

@[simp] theorem toOption_mapError (f : ε → ε') (result : Except ε α) :
    (result.mapError f).toOption = result.toOption := by
  cases result <;> rfl

end Results

/-! ## Values that drafts show -/

mutual

theorem Draft.Shows.toOption_value : ∀ {draft : Draft} {value : Value} {after : List Char},
    draft.Shows value after → ∀ room : Nat,
      (draft.value room).toOption = if value.depth ≤ room then some value else none
  | _, _, _, .null, room => by simp [Draft.value, Value.depth]
  | _, _, _, .boolean, room => by simp [Draft.value, Value.depth]
  | _, _, _, .number, room => by simp [Draft.value, Value.depth]
  | _, _, _, .string, room => by simp [Draft.value, Value.depth]
  | _, _, _, .array inside, 0 => by simp [Draft.value, Value.depth]
  | _, _, _, .array inside, room + 1 => by
    simp [Draft.value, Value.depth, inside.toOption_itemValues room, apply_ite]
  | _, _, _, .object inside, 0 => by simp [Draft.value, Value.depth]
  | _, _, _, .object inside, room + 1 => by
    simp [Draft.value, Value.depth, inside.toOption_memberValues room, apply_ite]

theorem Items.Show.toOption_itemValues : ∀ {items : Items} {values : List Value}
    {after : List Char}, items.Show values after → ∀ room : Nat,
      (Draft.itemValues room items).toOption =
        if Value.itemsDepth values ≤ room then some values else none
  | _, _, _, .close, room => by simp [Draft.itemValues, Value.itemsDepth]
  | _, value :: values, _, .item here others, room => by
    have first := here.toOption_value room
    have rest := others.toOption_itemValues room
    simp only [Draft.itemValues, Value.itemsDepth, Nat.max_le]
    by_cases fits : value.depth ≤ room <;> by_cases fit : Value.itemsDepth values ≤ room <;>
      simp [first, rest, fits, fit, pure, Except.pure]

theorem Members.Show.toOption_memberValues : ∀ {members : Members}
    {values : List (String × Value)} {after : List Char}, members.Show values after → ∀ room : Nat,
      (Draft.memberValues room members).toOption =
        if Value.membersDepth values ≤ room then some values else none
  | _, _, _, .close, room => by simp [Draft.memberValues, Value.membersDepth]
  | _, (_, value) :: values, _, .member here others, room => by
    have first := here.toOption_value room
    have rest := others.toOption_memberValues room
    simp only [Draft.memberValues, Value.membersDepth, Nat.max_le]
    by_cases fits : value.depth ≤ room <;> by_cases fit : Value.membersDepth values ≤ room <;>
      simp [first, rest, fits, fit, pure, Except.pure]

end

/-! ## From the draft to the text -/

theorem Written.after_blanks {cs mid rest : List Char} {value : Value} (blanks : Blanks cs mid)
    (written : Written mid value rest) : Written cs value rest := by
  cases written with
  | null more => exact .null (blanks.trans more)
  | yes more => exact .yes (blanks.trans more)
  | no more => exact .no (blanks.trans more)
  | number more text value => exact .number (blanks.trans more) text value
  | string more letters => exact .string (blanks.trans more) letters
  | array more inside => exact .array (blanks.trans more) inside
  | object more inside => exact .object (blanks.trans more) inside

namespace Draft

theorem of_literal {start cs : List Char} {found : List Char → Draft} {room : Nat} {value : Value} :
    ∀ {word : List Char}, (literal start found word cs).value room = .ok value →
      ∃ rest, cs = word ++ rest ∧ literal start found word cs = found rest := by
  intro word
  induction word generalizing cs with
  | nil => exact fun _ => ⟨cs, rfl, rfl⟩
  | cons letter word ih =>
    intro read
    cases cs with
    | nil => cases read
    | cons c cs =>
      rw [literal] at read ⊢
      split at read
      · next same =>
        obtain ⟨rest, rfl, reached⟩ := ih read
        exact ⟨rest, by rw [eq_of_beq same]; rfl, by rw [if_pos same, reached]⟩
      · cases read

theorem of_ofNumeral {start : List Char} {room : Nat} {value : Value}
    (read : (ofNumeral start).value room = .ok value) :
    ∃ rest, (ofNumeral start).ending = .ok rest ∧ Written start value rest := by
  unfold ofNumeral at read ⊢
  split at read
  · next numeral rest done =>
    obtain ⟨body, text, rfl⟩ := Numeral.of_read done
    split at read
    · next n known =>
      cases read
      exact ⟨rest, by simp [ending], .number .none text known⟩
    · cases read
  · cases read

theorem of_ofQuoted {start body : List Char} {room : Nat} {value : Value}
    (read : (ofQuoted start body).value room = .ok value) :
    ∃ rest, (ofQuoted start body).ending = .ok rest ∧ Written ('"' :: body) value rest := by
  unfold ofQuoted at read ⊢
  split at read
  · next text rest done =>
    cases read
    refine ⟨rest, rfl, .string .none ?_⟩
    simpa using letters_of_unquote done
  · cases read

/-- What is read with so many steps stands in the text. -/
structure Sound (steps : Nat) : Prop where
  value {room : Nat} {cs : List Char} {value : Value} :
    (read steps cs).value room = .ok value →
      ∃ rest, (read steps cs).ending = .ok rest ∧ Written cs value rest
  items {room : Nat} {first : Bool} {cs : List Char} {values : List Value} :
    itemValues room (readItems steps first cs) = .ok values →
      ∃ rest, (readItems steps first cs).ending = .ok rest ∧ WrittenItems first cs values rest
  nextItems {room : Nat} {mid : List Char} {values : List Value} :
    itemValues room (followItems steps (.ok mid)) = .ok values →
      ∃ rest, (followItems steps (.ok mid)).ending = .ok rest ∧ WrittenItems false mid values rest
  members {room : Nat} {first : Bool} {cs : List Char} {values : List (String × Value)} :
    memberValues room (readMembers steps first cs) = .ok values →
      ∃ rest, (readMembers steps first cs).ending = .ok rest ∧ WrittenMembers first cs values rest
  member {room : Nat} {first : Bool} {cs start mid : List Char} {values : List (String × Value)} :
    memberValues room (readMember steps cs) = .ok values → Lead first start mid → Blanks mid cs →
      ∃ rest, (readMember steps cs).ending = .ok rest ∧ WrittenMembers first start values rest
  nextMembers {room : Nat} {mid : List Char} {values : List (String × Value)} :
    memberValues room (followMembers steps (.ok mid)) = .ok values →
      ∃ rest, (followMembers steps (.ok mid)).ending = .ok rest ∧
        WrittenMembers false mid values rest

theorem bind_ok {α β : Type} {result : Except Fault α} {next : α → Except Fault β} {b : β}
    (done : result >>= next = .ok b) : ∃ a, result = .ok a ∧ next a = .ok b := by
  cases result with
  | error fault => cases done
  | ok a => exact ⟨a, rfl, done⟩

theorem map_ok {α β : Type} {result : Except Fault α} {f : α → β} {b : β}
    (done : result.map f = .ok b) : ∃ a, result = .ok a ∧ f a = b := by
  cases result with
  | error fault => cases done
  | ok a => exact ⟨a, rfl, Except.ok.inj done⟩

theorem of_memberValues {room : Nat} {key : Except Fault String} {colon : List Char}
    {member : Draft} {rest : Members} {values : List (String × Value)}
    (done : memberValues room (.member key colon member rest) = .ok values) :
    ∃ name value others, key = .ok name ∧ member.value room = .ok value ∧
      memberValues room rest = .ok others ∧ values = (name, value) :: others := by
  obtain ⟨name, named, done⟩ := bind_ok done
  obtain ⟨value, here, done⟩ := bind_ok done
  obtain ⟨others, further, same⟩ := bind_ok done
  exact ⟨name, value, others, named, here, further, (Except.ok.inj same).symm⟩

theorem Sound.zero : Sound 0 where
  value read := by cases read
  items read := by cases read
  nextItems read := by cases read
  members read := by cases read
  member read := by cases read
  nextMembers read := by cases read

section Step

variable {steps : Nat} (sound : Sound steps)
include sound

theorem Sound.value_step {room : Nat} {cs : List Char} {value : Value}
    (done : (read (steps + 1) cs).value room = .ok value) :
    ∃ rest, (read (steps + 1) cs).ending = .ok rest ∧ Written cs value rest := by
  have blanks := blanks_skipSpace cs
  rw [read] at done ⊢
  generalize skipSpace cs = start at blanks done
  simp only at done ⊢
  split at done
  · cases done
  · obtain ⟨rest, rfl, reached⟩ := of_literal done
    rw [reached] at done ⊢
    cases done
    exact ⟨rest, rfl, .null blanks⟩
  · obtain ⟨rest, rfl, reached⟩ := of_literal done
    rw [reached] at done ⊢
    cases done
    exact ⟨rest, rfl, .yes blanks⟩
  · obtain ⟨rest, rfl, reached⟩ := of_literal done
    rw [reached] at done ⊢
    cases done
    exact ⟨rest, rfl, .no blanks⟩
  · obtain ⟨rest, ends, written⟩ := of_ofQuoted done
    exact ⟨rest, ends, written.after_blanks blanks⟩
  · cases room with
    | zero => cases done
    | succ room =>
      obtain ⟨items, read, rfl⟩ := map_ok done
      obtain ⟨rest, ends, written⟩ := sound.items read
      exact ⟨rest, ends, .array blanks written⟩
  · cases room with
    | zero => cases done
    | succ room =>
      obtain ⟨members, read, rfl⟩ := map_ok done
      obtain ⟨rest, ends, written⟩ := sound.members read
      exact ⟨rest, ends, .object blanks written⟩
  · split at done
    · next leads =>
      obtain ⟨rest, ends, written⟩ := of_ofNumeral done
      exact ⟨rest, by simp only [leads]; exact ends, written.after_blanks blanks⟩
    · cases done

theorem Sound.item {room : Nat} {first : Bool} {cs start mid : List Char} {values : List Value}
    (done : itemValues room (.item (read steps mid) (followItems steps (read steps mid).ending)) =
      .ok values) (lead : Lead first cs start) (blanks : Blanks start mid) :
    ∃ rest, (Items.item (read steps mid) (followItems steps (read steps mid).ending)).ending =
      .ok rest ∧ WrittenItems first cs values rest := by
  obtain ⟨value, here, done⟩ := bind_ok done
  obtain ⟨after, ends, written⟩ := sound.value here
  rw [ends] at done ⊢
  obtain ⟨others, done, same⟩ := bind_ok done
  obtain ⟨rest, close, further⟩ := sound.nextItems done
  cases same
  refine ⟨rest, ?_, .item lead (written.after_blanks blanks) further⟩
  rw [Items.ending, ends]
  exact close

theorem Sound.items_step {room : Nat} {first : Bool} {cs : List Char} {values : List Value}
    (done : itemValues room (readItems (steps + 1) first cs) = .ok values) :
    ∃ rest, (readItems (steps + 1) first cs).ending = .ok rest ∧
      WrittenItems first cs values rest := by
  have blanks := blanks_skipSpace cs
  rw [readItems] at done ⊢
  generalize skipSpace cs = token at blanks done
  split at done
  · cases done
  · cases done
    exact ⟨_, rfl, .close blanks⟩
  · next c tail closed =>
    cases first with
    | true => exact sound.item done .first blanks
    | false =>
      simp only [Bool.false_eq_true, ↓reduceIte] at done ⊢
      split at done
      · next comma =>
        rw [eq_of_beq comma] at blanks
        simp only [comma, ↓reduceIte]
        have more := blanks_skipSpace tail
        generalize skipSpace tail = token at more done
        split at done
        · cases done
        · exact sound.item done (.comma blanks) more
      · cases done

theorem Sound.members_step {room : Nat} {first : Bool} {cs : List Char}
    {values : List (String × Value)}
    (done : memberValues room (readMembers (steps + 1) first cs) = .ok values) :
    ∃ rest, (readMembers (steps + 1) first cs).ending = .ok rest ∧
      WrittenMembers first cs values rest := by
  have blanks := blanks_skipSpace cs
  rw [readMembers] at done ⊢
  generalize skipSpace cs = token at blanks done
  split at done
  · cases done
  · cases done
    exact ⟨_, rfl, .close blanks⟩
  · next c tail closed =>
    cases first with
    | true => exact sound.member done .first blanks
    | false =>
      simp only [Bool.false_eq_true, ↓reduceIte] at done ⊢
      split at done
      · next comma =>
        rw [eq_of_beq comma] at blanks
        simp only [comma, ↓reduceIte]
        have more := blanks_skipSpace tail
        generalize skipSpace tail = token at more done
        split at done
        · cases done
        · cases done
        · exact sound.member done (.comma blanks) more
      · cases done

theorem Sound.member_step {room : Nat} {first : Bool} {cs start mid : List Char}
    {values : List (String × Value)}
    (done : memberValues room (readMember (steps + 1) cs) = .ok values)
    (lead : Lead first start mid) (blanks : Blanks mid cs) :
    ∃ rest, (readMember (steps + 1) cs).ending = .ok rest ∧
      WrittenMembers first start values rest := by
  unfold readMember at done ⊢
  split at done
  · cases done
  · next fewer body same =>
    cases same
    dsimp only at done ⊢
    split at done
    · obtain ⟨_, _, _, _, absent, _⟩ := of_memberValues done
      cases absent
    · next after passed =>
      have more := blanks_skipSpace after
      generalize skipSpace after = token at more done
      split at done
      · obtain ⟨name, value, others, named, here, further, rfl⟩ := of_memberValues done
        obtain ⟨⟨key, past⟩, unquoted, rfl⟩ := map_ok named
        have letters := letters_of_unquote unquoted
        -- The key was passed over before it is read, and both end at the same place.
        have same := letters.pass_eq.symm.trans passed
        cases same
        obtain ⟨mid, ends, written⟩ := sound.value here
        rw [ends] at further
        obtain ⟨rest, close, beyond⟩ := sound.nextMembers further
        refine ⟨rest, ?_, .member lead blanks (by simpa using letters) more written beyond⟩
        simp only [Members.ending, ends]
        exact close
      · obtain ⟨_, _, _, _, absent, _⟩ := of_memberValues done
        cases absent
      · obtain ⟨_, _, _, _, absent, _⟩ := of_memberValues done
        cases absent
  · cases done

theorem Sound.succ : Sound (steps + 1) where
  value := sound.value_step
  items := sound.items_step
  nextItems done := sound.items done
  members := sound.members_step
  member := sound.member_step
  nextMembers done := sound.members done

end Step

theorem sound (steps : Nat) : Sound steps := by
  induction steps with
  | zero => exact .zero
  | succ steps ih => exact ih.succ

end Draft

/-! ## Whole texts -/

/-- In a text that holds a value, a reader is stopped by nothing but its own demands. -/
theorem Holds.toOption_read {α : Type} {text : String} {value : Value} (holds : Holds text value)
    (reader : Draft → Except Fault α) :
    (read reader text).toOption = (reader (Draft.ofText text.toList)).toOption := by
  obtain ⟨after, shown, blanks⟩ := holds.draft
  have blank := skipSpace_eq_nil_iff.mpr blanks
  simp [read, shown.ending, blank, pure, Except.pure]

/-- A text holds what a reader of whole values finds at its front, if nothing follows it. -/
theorem holds_of_value {text : String} {value : Value} {after : List Char} {room : Nat}
    (found : (Draft.ofText text.toList).value room = .ok value)
    (ends : (Draft.ofText text.toList).ending = .ok after) (blanks : Blanks after []) :
    Holds text value := by
  obtain ⟨rest, reached, written⟩ := (Draft.sound _).value found
  cases ends.symm.trans reached
  exact ⟨after, written, blanks⟩

theorem of_read {α : Type} {reader : Draft → Except Fault α} {text : String} {a : α}
    (done : read reader text = .ok a) :
    reader (Draft.ofText text.toList) = .ok a ∧
      ∃ after, (Draft.ofText text.toList).ending = .ok after ∧ Blanks after [] := by
  obtain ⟨found, wanted, done⟩ := Draft.bind_ok done
  obtain ⟨after, ends, done⟩ := Draft.bind_ok done
  split at done
  · next blank =>
    cases done
    exact ⟨wanted, after, ends, skipSpace_eq_nil_iff.mp blank⟩
  · cases done

/-- Parsing finds the values that texts hold, as far as they are not nested too deeply. -/
theorem parse_eq_ok_iff {text : String} {value : Value} :
    parse text = .ok value ↔ Holds text value ∧ value.depth ≤ nesting := by
  have shown : Holds text value →
      (parse text).toOption = if value.depth ≤ nesting then some value else none := by
    intro holds
    obtain ⟨after, shown, _⟩ := holds.draft
    rw [parse, holds.toOption_read, shown.toOption_value]
  constructor
  · intro parsed
    obtain ⟨found, after, ends, blanks⟩ := of_read parsed
    have holds := holds_of_value found ends blanks
    refine ⟨holds, ?_⟩
    have bounded := shown holds
    rw [parsed] at bounded
    split at bounded
    · assumption
    · cases bounded
  · rintro ⟨holds, fits⟩
    rw [← toOption_eq_some_iff, shown holds, if_pos fits]

end Scratchpad.Json
