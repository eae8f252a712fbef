import Scratchpad.Json.Record
import Scratchpad.Proofs.Json.Parse

/-!
# What readers make of values

Where drafts show a value, most readers look at nothing else: they are faithful to it. Such a reader
is then as good as a function on values, `found`, in which a fault is the absence of a result. The
readers of lists, choices and records are faithful if the readers of their parts are.

Members are taken one by one, as the readers do it; `Json.Order` shows how little their order
matters.
-/

set_option autoImplicit false

namespace Scratchpad.Json

/-! ## Drafts of values -/

namespace Value

mutual

/-- The value as a draft that is apart from any text. -/
def draft : Value → Draft
  | .null => .null [] []
  | .boolean on => .boolean [] on []
  | .number n => .number [] n []
  | .string text => .string [] text []
  | .array items => .array [] (itemsDraft items) (.ok [])
  | .object members => .object [] (membersDraft members) (.ok [])

def itemsDraft : List Value → Items
  | [] => .close []
  | item :: items => .item item.draft (itemsDraft items)

def membersDraft : List (String × Value) → Members
  | [] => .close []
  | (key, value) :: members => .member (.ok key) [] value.draft (membersDraft members)

end

mutual

theorem draft_shows : ∀ value : Value, value.draft.Shows value []
  | .null => .null
  | .boolean _ => .boolean
  | .number _ => .number
  | .string _ => .string
  | .array items => .array (itemsDraft_show items)
  | .object members => .object (membersDraft_show members)

theorem itemsDraft_show : ∀ items : List Value, (itemsDraft items).Show items []
  | [] => .close
  | item :: items => .item item.draft_shows (itemsDraft_show items)

theorem membersDraft_show :
    ∀ members : List (String × Value), (membersDraft members).Show members []
  | [] => .close
  | (_, value) :: members => .member value.draft_shows (membersDraft_show members)

end

end Value

section Readers

variable {α : Type} {reader : Draft → Except Fault α}

/-- What the reader makes of a value. -/
def found (reader : Draft → Except Fault α) (value : Value) : Option α :=
  (reader value.draft).toOption

@[simp] theorem found_map {β : Type} (f : α → β) (value : Value) :
    found (fun draft => (reader draft).map f) value = (found reader value).map f :=
  toOption_map f (reader value.draft)

/-- The reader makes the same of all drafts of one value. -/
def Faithful (reader : Draft → Except Fault α) : Prop :=
  ∀ ⦃draft other : Draft⦄ ⦃value : Value⦄ ⦃after beyond : List Char⦄,
    draft.Shows value after → other.Shows value beyond →
      (reader draft).toOption = (reader other).toOption

theorem Faithful.toOption_eq (faithful : Faithful reader) {draft : Draft} {value : Value}
    {after : List Char} (shown : draft.Shows value after) :
    (reader draft).toOption = found reader value :=
  faithful shown value.draft_shows

theorem Faithful.read (faithful : Faithful reader) {text : String} {value : Value}
    (holds : Holds text value) : (Json.read reader text).toOption = found reader value := by
  obtain ⟨after, shown, _⟩ := holds.draft
  rw [holds.toOption_read, faithful.toOption_eq shown]

end Readers

/-! ## Scalars -/

@[simp] theorem faithful_text : Faithful Draft.text := by
  intro draft other value after beyond shown again
  cases shown <;> cases again <;> rfl

@[simp] theorem faithful_text? : Faithful Draft.text? := by
  intro draft other value after beyond shown again
  cases shown <;> cases again <;> rfl

@[simp] theorem faithful_bool : Faithful Draft.bool := by
  intro draft other value after beyond shown again
  cases shown <;> cases again <;> rfl

@[simp] theorem faithful_natural? : Faithful Draft.natural? := by
  intro draft other value after beyond shown again
  cases shown with
  | @number start n => cases again; cases n <;> rfl
  | null | boolean | string | array | object => cases again; rfl

theorem found_text_iff {value : Value} {text : String} :
    found Draft.text value = some text ↔ value = .string text := by
  cases value <;> simp [found, Value.draft, Draft.text]

theorem found_bool_iff {value : Value} {on : Bool} :
    found Draft.bool value = some on ↔ value = .boolean on := by
  cases value <;> simp [found, Value.draft, Draft.bool]

theorem found_natural?_iff {value : Value} {n : Option Nat} :
    found Draft.natural? value = some n ↔
      value = .null ∧ n = none ∨ ∃ m, value = .number (.natural m) ∧ n = some m := by
  cases value with
  | number m => cases m <;> simp [found, Value.draft, Draft.natural?, eq_comm]
  | null => simp [found, Value.draft, Draft.natural?, eq_comm]
  | boolean | string | array | object => simp [found, Value.draft, Draft.natural?]

/-! ## Lists and choices -/

section Lists

variable {α : Type}

theorem Items.Show.toOption_list {reader : Draft → Except Fault α} (faithful : Faithful reader)
    {after beyond : List Char} :
    ∀ {values : List Value} {items others : Items}, items.Show values after →
      others.Show values beyond → (items.list reader).toOption = (others.list reader).toOption
  | [], _, _, .close, .close => rfl
  | _ :: _, _, _, .item here further, .item there onward => by
    simp only [Items.list, toOption_bind, faithful here there,
      further.toOption_list faithful onward]

@[simp] theorem faithful_list {reader : Draft → Except Fault α} (faithful : Faithful reader) :
    Faithful (Draft.list reader) := by
  intro draft other value after beyond shown again
  cases shown with
  | array inside =>
    cases again with
    | array within => exact inside.toOption_list faithful within
  | null | boolean | number | string | object => cases again; rfl

theorem found_list (reader : Draft → Except Fault α) (items : List Value) :
    found (Draft.list reader) (.array items) = items.mapM (found reader) := by
  change ((Value.itemsDraft items).list reader).toOption = _
  induction items with
  | nil => rfl
  | cons item items ih =>
    simp only [Value.itemsDraft, Items.list, toOption_bind, ih, List.mapM_cons]
    rfl

theorem found_list_of_not_array (reader : Draft → Except Fault α) {value : Value}
    (other : ∀ items, value ≠ .array items) : found (Draft.list reader) value = none := by
  cases value with
  | array items => exact absurd rfl (other items)
  | null | boolean | number | string | object => rfl

/-- Where each thing is read from one value only, a list of things is read from one array only. -/
theorem found_list_of_written {reader : Draft → Except Fault α} {write : α → Value}
    (reads : ∀ value a, found reader value = some a ↔ value = write a) {value : Value}
    {list : List α} :
    found (Draft.list reader) value = some list ↔ value = .array (list.map write) := by
  by_cases array : ∃ items, value = .array items
  · obtain ⟨items, rfl⟩ := array
    rw [found_list, Value.array.injEq]
    induction items generalizing list with
    | nil => cases list <;> simp
    | cons item items ih =>
      cases list <;>
        simp [List.mapM_cons, Option.bind_eq_some_iff, reads, ih]
  · rw [found_list_of_not_array reader fun items same => array ⟨items, same⟩]
    exact ⟨nofun, fun same => absurd ⟨_, same⟩ array⟩

def named (choices : List (String × α)) (name : String) : Option α :=
  (choices.find? (·.1 == name)).map (·.2)

theorem toOption_chosen (choices : List (String × α)) (name : String) (after : List Char) :
    (chosen choices name after).toOption = named choices name := by
  unfold chosen named
  split
  · next found => rw [found]; rfl
  · next absent => rw [absent]; rfl

@[simp] theorem faithful_choice (choices : List (String × α)) :
    Faithful (Draft.choice choices) := by
  intro draft other value after beyond shown again
  cases shown with
  | null | boolean | number | array => cases again; rfl
  | string =>
    cases again
    simp only [Draft.choice, toOption_chosen]
  | object inside =>
    cases again with
    | object within =>
      cases inside with
      | close => cases within; rfl
      | member here further =>
        cases within with
        | member there onward =>
          simp only [Draft.choice, toOption_bind, toOption_ok, Option.bind_some, toOption_chosen]
          cases here <;> cases there <;> cases further <;> cases onward <;> rfl

@[simp] theorem faithful_name (choices : List (String × α)) : Faithful (Draft.name choices) := by
  intro draft other value after beyond shown again
  cases shown with
  | string =>
    cases again
    simp only [Draft.name, toOption_chosen]
  | null | boolean | number | array | object => cases again; rfl

end Lists

/-! ## Members -/

section Members

variable {σ : Type}

/-- Take members one by one into a state. -/
def takeAll (take : σ → String × Value → Option σ) (state : Option σ)
    (members : List (String × Value)) : Option σ :=
  members.foldl (fun state member => state.bind (take · member)) state

theorem takeAll_cons (take : σ → String × Value → Option σ) (state : Option σ)
    (member : String × Value) (members : List (String × Value)) :
    takeAll take state (member :: members) = takeAll take (state.bind (take · member)) members :=
  rfl

theorem takeAll_none (take : σ → String × Value → Option σ) (members : List (String × Value)) :
    takeAll take none members = none := by
  induction members with
  | nil => rfl
  | cons member members ih => exact ih

/-- The step makes of a draft what the function makes of its value. -/
def Takes (step : σ → String → List Char → Draft → Except Fault σ)
    (take : σ → String × Value → Option σ) : Prop :=
  ∀ (state : σ) (key : String) (colon : List Char) ⦃draft : Draft⦄ ⦃value : Value⦄
    ⦃after : List Char⦄, draft.Shows value after →
      (step state key colon draft).toOption = take state (key, value)

theorem Members.Show.toOption_fold {step : σ → String → List Char → Draft → Except Fault σ}
    {take : σ → String × Value → Option σ} (takes : Takes step take) {after : List Char} :
    ∀ {members : Members} {values : List (String × Value)}, members.Show values after →
      ∀ state : σ, (members.fold step state).toOption =
        (takeAll take (some state) values).map (·, after)
  | _, [], .close, _ => rfl
  | _, (key, value) :: values, .member here others, state => by
    simp only [Members.fold, toOption_bind, toOption_ok, Option.bind_some, takeAll_cons,
      takes state key _ here]
    cases take state (key, value) with
    | none => rw [takeAll_none]; rfl
    | some next => exact others.toOption_fold takes next

end Members

/-! ## Records -/

namespace Field

variable {σ : Type}

/-- Take a value, unless there is one already. -/
def take (field : Field σ) (form : σ) (value : Value) : Option σ :=
  if field.held form then none else found (field.fill form) value

/-- Take a member into the field of its name; one without a field only has to pass. -/
def member (fields : List (Field σ)) (passes : Value → Bool) (form : σ)
    (member : String × Value) : Option σ :=
  match fields.find? (·.name == member.1) with
  | some field => field.take form member.2
  | none => if passes member.2 then some form else none

/-- A field whose reader is faithful. -/
def IsFaithful (field : Field σ) : Prop :=
  ∀ form, Faithful (field.fill form)

@[simp] theorem isFaithful_of {α : Type} {reader : Draft → Except Fault α}
    (faithful : Faithful reader) (name : String) (need : Need) (part : σ → Option α)
    (put : σ → α → σ) :
    (of name need part put reader).IsFaithful := by
  intro form draft other value after beyond shown again
  simp only [of, toOption_map, faithful shown again]

end Field

section Records

variable {σ α : Type} {shape : Shape σ α}

theorem Items.Show.toOption_fill {wanted : Wanted} {after beyond : List Char} :
    ∀ {fields : List (Field σ)}, (∀ field ∈ fields, field.IsFaithful) →
      ∀ {values : List Value} {items others : Items}, items.Show values after →
      others.Show values beyond → ∀ (length : Nat) (form : σ),
      (items.fill wanted length fields form).toOption =
        (others.fill wanted length fields form).toOption := by
  intro fields faithful
  induction fields with
  | nil =>
    intro values items others shown again length form
    cases shown <;> cases again <;> rfl
  | cons field fields ih =>
    have rest : ∀ field ∈ fields, field.IsFaithful := fun field inside =>
      faithful field (List.mem_cons_of_mem _ inside)
    intro values items others shown again length form
    cases shown with
    | close =>
      cases again
      simp only [Items.fill]
      split
      · exact ih rest .close .close length form
      · rfl
    | item here further =>
      cases again with
      | item there onward =>
        simp only [Items.fill, toOption_bind,
          faithful field List.mem_cons_self form here there]
        congr 1
        funext next
        exact ih rest further onward (length + 1) next

/-- Fill fields from values, one after the other. Fields with a default may be left off the end. -/
def fillEach : List (Field σ) → List Value → σ → Option σ
  | [], [], form => some form
  | [], _ :: _, _ => none
  | field :: fields, value :: values, form =>
    (found (field.fill form) value).bind (fillEach fields values)
  | field :: fields, [], form =>
    if field.need == .defaulted then fillEach fields [] form else none

theorem toOption_fillEach (wanted : Wanted) (fields : List (Field σ)) (values : List Value)
    (length : Nat) (form : σ) :
    ((Value.itemsDraft values).fill wanted length fields form).toOption =
      fillEach fields values form := by
  induction fields generalizing values length form with
  | nil => cases values <;> rfl
  | cons field fields ih =>
    cases values with
    | nil =>
      simp only [Value.itemsDraft, Items.fill, fillEach]
      split
      · exact ih [] length form
      · rfl
    | cons value values =>
      simp only [Value.itemsDraft, Items.fill, fillEach, toOption_bind, ih]
      rfl

/-- An array is read as a record item by item. -/
theorem Shape.found_array (shape : Shape σ α) (items : List Value) :
    found shape.read (.array items) =
      (fillEach shape.fields items shape.empty).bind fun form => (shape.finish form).toOption := by
  change (shape.ofItems (Value.itemsDraft items)).toOption = _
  simp only [Shape.ofItems, toOption_bind, toOption_fillEach]
  congr 1
  funext form
  unfold Shape.close
  cases shape.finish form <;> rfl

theorem Shape.takes (faithful : ∀ field ∈ shape.fields, field.IsFaithful) :
    Takes shape.member (Field.member shape.fields fun _ => true) := by
  intro form key colon draft value after shown
  simp only [Shape.member, Field.member, Field.take]
  cases known : shape.fields.find? (·.name == key) with
  | none => simp [shown.ending, Except.map]
  | some field =>
    have reads := (faithful field (List.mem_of_find?_eq_some known) form).toOption_eq shown
    by_cases held : field.held form = true <;> simp [held, reads]

theorem Shape.toOption_close (form : σ) (after : List Char) :
    (shape.close form after).toOption = (shape.finish form).toOption := by
  unfold Shape.close
  cases shape.finish form <;> rfl

theorem Shape.toOption_ofMembers (faithful : ∀ field ∈ shape.fields, field.IsFaithful)
    {members : Members} {values : List (String × Value)} {after : List Char}
    (shown : members.Show values after) :
    (shape.ofMembers members).toOption =
      (takeAll (Field.member shape.fields fun _ => true) (some shape.empty) values).bind fun form =>
        (shape.finish form).toOption := by
  simp only [Shape.ofMembers, toOption_bind, shown.toOption_fold (Shape.takes faithful),
    Option.bind_map]
  congr 1
  funext form
  exact Shape.toOption_close form after

theorem Shape.faithful_read (faithful : ∀ field ∈ shape.fields, field.IsFaithful) :
    Faithful shape.read := by
  intro draft other value after beyond shown again
  cases shown with
  | null | boolean | number | string => cases again; rfl
  | array inside =>
    cases again with
    | array within =>
      simp only [Shape.read, Shape.ofItems, toOption_bind, inside.toOption_fill faithful within]
  | object inside =>
    cases again with
    | object within =>
      simp only [Shape.read, Shape.toOption_ofMembers faithful inside,
        Shape.toOption_ofMembers faithful within]

end Records

end Scratchpad.Json
