import Scratchpad.Proofs.Json.Record

/-!
# Members in any order

The fields of a record are kept apart from one another: filling one leaves the others as they were.
Taking two members in one order or the other then gives the same form, and neither succeeds when the
two are for the same field. So it does not matter in which order members come, and a record can be
understood field by field: each field looks at the members of its own name alone (`field?`).
-/

set_option autoImplicit false

namespace Scratchpad.Json

/-! ## Fields that are kept apart -/

namespace Field

variable {σ : Type}

/-- Two fields may be filled in either order. -/
def Apart (first second : Field σ) : Prop :=
  ∀ (form : σ) (v w : Value),
    (first.take form v).bind (second.take · w) = (second.take form w).bind (first.take · v)

theorem Apart.symm {first second : Field σ} (apart : first.Apart second) : second.Apart first :=
  fun form v w => (apart form w v).symm

theorem take_of {α : Type} (name : String) (need : Need) (part : σ → Option α) (put : σ → α → σ)
    (reader : Draft → Except Fault α) (form : σ) (value : Value) :
    (of name need part put reader).take form value =
      if (part form).isSome then none else (found reader value).map (put form) := by
  simp only [take, of, found, toOption_map]

section Parts

variable {α β : Type} {name other : String} {need want : Need}
  {part : σ → Option α} {put : σ → α → σ} {reader : Draft → Except Fault α}
  {share : σ → Option β} {give : σ → β → σ} {taker : Draft → Except Fault β}

@[simp] theorem apart_of (unmoved : ∀ form b, part (give form b) = part form)
    (kept : ∀ form a, share (put form a) = share form)
    (commute : ∀ form a b, give (put form a) b = put (give form b) a) :
    (of name need part put reader).Apart (of other want share give taker) := by
  intro form v w
  simp only [take_of]
  cases found reader v <;> cases found taker w <;> cases one : (part form).isSome <;>
    cases two : (share form).isSome <;> simp [unmoved, kept, commute, one, two]

/-- A field that is filled does not take anything more. -/
@[simp] theorem apart_self_of (filled : ∀ form a, (part (put form a)).isSome) :
    (of name need part put reader).Apart (of name need part put reader) := by
  intro form v w
  simp only [take_of]
  cases found reader v <;> cases found reader w <;> cases (part form).isSome <;> simp [filled]

end Parts

/-- All fields are apart from one another and from themselves, and no two have one name. -/
structure Separate (fields : List (Field σ)) : Prop where
  self : ∀ field ∈ fields, field.Apart field
  pairs : fields.Pairwise Apart
  names : (fields.map (·.name)).Nodup

theorem Separate.apart {fields : List (Field σ)} (separate : Separate fields)
    {first second : Field σ} (here : first ∈ fields) (there : second ∈ fields) :
    first.Apart second :=
  separate.pairs.forall_of_forall_of_flip separate.self
    (separate.pairs.imp fun apart => apart.symm) here there

theorem member_comm {fields : List (Field σ)} (separate : Separate fields) (passes : Value → Bool)
    (form : σ) (m n : String × Value) :
    (member fields passes form m).bind (member fields passes · n) =
      (member fields passes form n).bind (member fields passes · m) := by
  unfold member
  cases one : fields.find? (·.name == m.1) with
  | none =>
    cases two : fields.find? (·.name == n.1) <;> cases passes m.2 <;> cases passes n.2 <;> simp
  | some first =>
    cases two : fields.find? (·.name == n.1) with
    | none => cases passes n.2 <;> simp
    | some second =>
      exact separate.apart (List.mem_of_find?_eq_some one) (List.mem_of_find?_eq_some two) form m.2
        n.2

end Field

open Json.Field (Separate)

section Order

variable {σ : Type}

theorem takeAll_append (take : σ → String × Value → Option σ) (state : Option σ)
    (members others : List (String × Value)) :
    takeAll take state (members ++ others) = takeAll take (takeAll take state members) others :=
  List.foldl_append

theorem takeAll_congr {take other : σ → String × Value → Option σ} {members : List (String × Value)}
    (same : ∀ member ∈ members, ∀ state, take state member = other state member)
    (state : Option σ) : takeAll take state members = takeAll other state members := by
  induction members generalizing state with
  | nil => rfl
  | cons member members ih =>
    have here : (take · member) = (other · member) :=
      funext fun state => same member List.mem_cons_self state
    rw [takeAll_cons, takeAll_cons, here]
    exact ih (fun member inside => same member (List.mem_cons_of_mem _ inside)) _

theorem takeAll_perm {fields : List (Field σ)} (separate : Separate fields)
    (passes : Value → Bool) {members others : List (String × Value)} (perm : members.Perm others)
    (form : Option σ) :
    takeAll (Field.member fields passes) form members =
      takeAll (Field.member fields passes) form others := by
  refine perm.foldl_eq' ?_ form
  intro m _ n _ state
  cases state with
  | none => rfl
  | some state => exact Field.member_comm separate passes state m n

/-! ## Field by field -/

/-- What the members of a name come to: nothing without any, and no result with more than one. -/
def field? {α : Type} (name : String) (find : Value → Option α) (members : List (String × Value)) :
    Option (Option α) :=
  match members.filter (·.1 == name) with
  | [] => some none
  | [member] => (find member.2).map some
  | _ => none

/-- Fill the fields one after the other, each from the members of its name. -/
def fillAll (fields : List (Field σ)) (members : List (String × Value)) (form : Option σ) :
    Option σ :=
  fields.foldl (fun form field =>
    takeAll (fun form member => field.take form member.2) form
      (members.filter (·.1 == field.name))) form

/-- The members without a field pass. -/
def othersPass (fields : List (Field σ)) (passes : Value → Bool) (members : List (String × Value)) :
    Bool :=
  members.all fun member => fields.any (·.name == member.1) || passes member.2

theorem takeAll_no_fields (passes : Value → Bool) (members : List (String × Value))
    (form : Option σ) :
    takeAll (Field.member [] passes) form members =
      if members.all (passes ·.2) then form else none := by
  induction members generalizing form with
  | nil => rfl
  | cons member members ih =>
    rw [takeAll_cons, ih, List.all_cons]
    cases form with
    | none => simp only [Option.bind_none, ite_self]
    | some form =>
      simp only [Option.bind_some, Field.member, List.find?_nil]
      cases passes member.2 with
      | true => rfl
      | false => simp only [Bool.false_eq_true, ↓reduceIte, ite_self, Bool.false_and]

theorem othersPass_cons (field : Field σ) (fields : List (Field σ)) (passes : Value → Bool)
    (members : List (String × Value)) :
    othersPass fields passes (members.filter fun member => !(member.1 == field.name)) =
      othersPass (field :: fields) passes members := by
  simp only [othersPass, List.all_filter, Bool.not_not, List.any_cons]
  congr 1
  funext member
  rw [Bool.or_assoc, show (member.1 == field.name) = (field.name == member.1) from Bool.beq_comm]

/-- A field is not concerned with the members of another name. -/
theorem fillAll_filter {name : String} {fields : List (Field σ)}
    (other : ∀ field ∈ fields, field.name ≠ name) (members : List (String × Value))
    (form : Option σ) :
    fillAll fields (members.filter fun member => !(member.1 == name)) form =
      fillAll fields members form := by
  induction fields generalizing form with
  | nil => rfl
  | cons field fields ih =>
    have here : (members.filter fun member => !(member.1 == name)).filter (·.1 == field.name) =
        members.filter (·.1 == field.name) := by
      rw [List.filter_filter]
      congr 1
      funext member
      have apart := other field List.mem_cons_self
      by_cases same : member.1 = field.name <;> simp [same, apart]
    simp only [fillAll, List.foldl_cons, here]
    exact ih (fun field inside => other field (List.mem_cons_of_mem _ inside)) _

theorem takeAll_field_by_field {fields : List (Field σ)} (separate : Separate fields)
    (passes : Value → Bool) (members : List (String × Value)) (form : Option σ) :
    takeAll (Field.member fields passes) form members =
      if othersPass fields passes members then fillAll fields members form else none := by
  induction fields generalizing members form with
  | nil =>
    rw [takeAll_no_fields]
    rfl
  | cons field fields ih =>
    obtain ⟨self, pairs, names⟩ := separate
    obtain ⟨fresh, distinct⟩ := List.nodup_cons.mp names
    have fewer : Separate fields :=
      ⟨fun field inside => self field (List.mem_cons_of_mem _ inside), pairs.tail, distinct⟩
    have other : ∀ member ∈ fields, member.name ≠ field.name := by
      intro member inside same
      exact fresh (List.mem_map.mpr ⟨member, inside, same⟩)
    -- The members of the first field come first; then it is out of play.
    have perm := (List.filter_append_perm (fun member => member.1 == field.name) members).symm
    have own : ∀ member ∈ members.filter (·.1 == field.name), ∀ form,
        Field.member (field :: fields) passes form member = field.take form member.2 := by
      intro member inside form
      have same : member.1 = field.name := eq_of_beq (List.mem_filter.mp inside).2
      simp [Field.member, same]
    have rest : ∀ member ∈ members.filter (fun member => !(member.1 == field.name)), ∀ form,
        Field.member (field :: fields) passes form member =
          Field.member fields passes form member := by
      intro member inside form
      have apart : member.1 ≠ field.name := by
        simpa using (List.mem_filter.mp inside).2
      simp [Field.member, apart.symm]
    rw [takeAll_perm ⟨self, pairs, names⟩ passes perm, takeAll_append, takeAll_congr own,
      takeAll_congr rest, ih fewer, othersPass_cons, fillAll_filter other]
    rfl

theorem fillAll_none (fields : List (Field σ)) (members : List (String × Value)) :
    fillAll fields members none = none := by
  induction fields with
  | nil => rfl
  | cons field fields ih =>
    rw [fillAll, List.foldl_cons, takeAll_none]
    exact ih

/-- A field at the head of the list, where `next` is the form by what the field holds. -/
theorem fillAll_of_cons {α β : Type} {name : String} {need : Need} {part : σ → Option α}
    {put : σ → α → σ} {reader : Draft → Except Fault α} {fields : List (Field σ)}
    {members : List (String × Value)} {finish : σ → Option β} {rest : Option α → Option β}
    (next : Option α → σ) (parts : ∀ held, part (next held) = held)
    (puts : ∀ a, put (next none) a = next (some a))
    (further : ∀ held, (fillAll fields members (some (next held))).bind finish = rest held) :
    (fillAll (.of name need part put reader :: fields) members (some (next none))).bind finish =
      (field? name (found reader) members >>= rest) := by
  have first : takeAll (fun form member => (Field.of name need part put reader).take form member.2)
      (some (next none)) (members.filter (·.1 == name)) =
        (field? name (found reader) members).map next := by
    unfold field?
    generalize members.filter (·.1 == name) = own
    match own with
    | [] => rfl
    | [member] =>
      simp only [takeAll, List.foldl_cons, List.foldl_nil, Option.bind_some, Field.take_of, parts]
      cases found reader member.2 <;> simp [puts]
    | member :: second :: others =>
      simp only [takeAll_cons, Option.bind_some, Field.take_of, parts]
      cases found reader member.2 <;> simp [puts, parts, takeAll_none]
  change (fillAll fields members (takeAll _ _ (members.filter (·.1 == name)))).bind finish = _
  rw [first]
  cases field? name (found reader) members with
  | none => rw [Option.map_none, fillAll_none]; rfl
  | some held => exact further held

theorem field?_perm {α : Type} {name : String} {find : Value → Option α}
    {members others : List (String × Value)} (perm : members.Perm others) :
    field? name find members = field? name find others := by
  have own := perm.filter (·.1 == name)
  unfold field?
  generalize members.filter (·.1 == name) = ours at own
  generalize others.filter (·.1 == name) = theirs at own
  match ours, own with
  | [], own => rw [own.nil_eq]
  | [member], own => rw [← List.singleton_perm.mp own]
  | first :: second :: more, own =>
    have long := own.length_eq
    match theirs, long with
    | _ :: _ :: _, _ => rfl

theorem filter_of_nodup {members : List (String × Value)} (distinct : (members.map (·.1)).Nodup)
    (name : String) :
    members.filter (·.1 == name) = (members.lookup name).toList.map (name, ·) := by
  induction members with
  | nil => rfl
  | cons member members ih =>
    obtain ⟨key, value⟩ := member
    obtain ⟨fresh, rest⟩ := List.nodup_cons.mp distinct
    by_cases same : key = name
    · subst same
      have none : members.filter (·.1 == key) = [] := by
        refine List.filter_eq_nil_iff.mpr fun member inside equal => fresh ?_
        exact List.mem_map.mpr ⟨member, inside, eq_of_beq equal⟩
      simp [none]
    · have other : (name == key) = false := beq_false_of_ne (Ne.symm same)
      simp [List.lookup_cons, same, other, ih rest]

theorem lookup_of_mem {members : List (String × Value)} (distinct : (members.map (·.1)).Nodup)
    {member : String × Value} (inside : member ∈ members) :
    members.lookup member.1 = some member.2 := by
  have own : member ∈ members.filter (·.1 == member.1) :=
    List.mem_filter.mpr ⟨inside, beq_self_eq_true _⟩
  rw [filter_of_nodup distinct] at own
  obtain ⟨value, there, same⟩ := List.mem_map.mp own
  rw [← same]
  exact Option.mem_toList.mp there

/-- Where no name comes twice, the members of a name are what is found by looking it up. -/
theorem field?_of_nodup {α : Type} {find : Value → Option α} {members : List (String × Value)}
    (distinct : (members.map (·.1)).Nodup) (name : String) :
    field? name find members =
      match members.lookup name with
      | some value => (find value).map some
      | none => some none := by
  rw [field?, filter_of_nodup distinct]
  cases members.lookup name <;> rfl

/-- The members of a name are one with the value, or there are none. -/
def Gives (members : List (String × Value)) (name : String) (value? : Option Value) : Prop :=
  members.filter (·.1 == name) = (value?.map (name, ·)).toList

theorem field?_eq_some_iff {α : Type} {name : String} {find : Value → Option α}
    {members : List (String × Value)} {held : Option α} :
    field? name find members = some held ↔
      ∃ value?, Gives members name value? ∧ value?.map find = held.map some := by
  have named : ∀ member ∈ members.filter (·.1 == name), member.1 = name :=
    fun member inside => eq_of_beq (List.mem_filter.mp inside).2
  unfold field? Gives
  generalize members.filter (·.1 == name) = own at named
  match own with
  | [] =>
    constructor
    · rintro ⟨⟩
      exact ⟨none, rfl, rfl⟩
    · rintro ⟨_ | value, given, reads⟩
      · cases held with
        | none => rfl
        | some a => cases reads
      · cases given
  | [(key, value)] =>
    obtain rfl : key = name := named _ List.mem_cons_self
    constructor
    · intro same
      obtain ⟨a, reads, rfl⟩ := Option.map_eq_some_iff.mp same
      exact ⟨some value, rfl, congrArg some reads⟩
    · rintro ⟨_ | other, given, reads⟩
      · cases given
      · cases given
        cases held with
        | none => cases reads
        | some a => exact congrArg (Option.map some) (Option.some.inj reads)
  | first :: second :: more =>
    constructor
    · rintro ⟨⟩
    · rintro ⟨_ | value, given, -⟩ <;> cases given

/-- Where each thing is read from one value only, the member that gives it has that value. -/
theorem field?_of_written {α : Type} {find : Value → Option α} {write : α → Value}
    (reads : ∀ value a, find value = some a ↔ value = write a) {name : String}
    {members : List (String × Value)} {held : Option α} :
    field? name find members = some held ↔ Gives members name (held.map write) := by
  have values (value? : Option Value) :
      value?.map find = held.map some ↔ value? = held.map write := by
    cases value? <;> cases held <;> simp [reads]
  simp only [field?_eq_some_iff, values, exists_eq_right]

/-- A form that is a single field. -/
theorem takeAll_single {α : Type} (name : String) (need : Need) (reader : Draft → Except Fault α)
    (passes : Value → Bool) (members : List (String × Value)) :
    takeAll (Field.member [.of name need id (fun _ a => some a) reader] passes) (some none)
        members =
      if members.all (fun member => name == member.1 || passes member.2) then
        field? name (found reader) members
      else none := by
  have separate : Separate [Field.of name need id (fun _ a => some a) reader] :=
    ⟨by simp, by simp, by simp⟩
  have single : (fillAll [Field.of name need id (fun _ a => some a) reader] members
      (some none)).bind some = (field? name (found reader) members >>= some) :=
    fillAll_of_cons id (fun _ => rfl) (fun _ => rfl) fun _ => rfl
  simp only [Option.bind_eq_bind, Option.bind_fun_some] at single
  rw [takeAll_field_by_field separate, single]
  simp only [othersPass, List.any_cons, List.any_nil, Bool.or_false]
  rfl

end Order

/-! ## Records -/

/-- The fields of a record are faithful and kept apart. -/
structure Shape.Lawful {σ α : Type} (shape : Shape σ α) : Prop extends
    Field.Separate shape.fields where
  faithful : ∀ field ∈ shape.fields, field.IsFaithful

namespace Shape.Lawful

variable {σ α : Type} {shape : Shape σ α}

theorem faithful_read (lawful : shape.Lawful) : Faithful shape.read :=
  Shape.faithful_read lawful.faithful

/-- An object is read as a record field by field. -/
theorem toOption_ofMembers (lawful : shape.Lawful) {members : Members}
    {values : List (String × Value)} {after : List Char} (shown : members.Show values after) :
    (shape.ofMembers members).toOption =
      (fillAll shape.fields values (some shape.empty)).bind fun form =>
        (shape.finish form).toOption := by
  have all : othersPass shape.fields (fun _ => true) values = true := by simp [othersPass]
  rw [Shape.toOption_ofMembers lawful.faithful shown,
    takeAll_field_by_field lawful.toSeparate, all, if_pos rfl]

theorem found_object (lawful : shape.Lawful) (values : List (String × Value)) :
    found shape.read (.object values) =
      (fillAll shape.fields values (some shape.empty)).bind fun form =>
        (shape.finish form).toOption :=
  lawful.toOption_ofMembers (Value.membersDraft_show values)

theorem toOption_ofMembers_eq_found (lawful : shape.Lawful) {members : Members}
    {values : List (String × Value)} {after : List Char} (shown : members.Show values after) :
    (shape.ofMembers members).toOption = found shape.read (.object values) := by
  rw [lawful.toOption_ofMembers shown, lawful.found_object]

end Shape.Lawful

@[simp] theorem toOption_required {α : Type} (name : String) (held : Option α) :
    (required name held).toOption = held := by
  cases held <;> rfl

end Scratchpad.Json
