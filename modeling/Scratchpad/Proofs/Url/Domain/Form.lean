import Scratchpad.Proofs.Url.Domain.Normal
import Scratchpad.Proofs.Url.Punycode

/-!
# The form of a domain

The form in which a domain is looked up is in lower case, and is its own form: its labels are read
as what they were written for. There is one exception. A label may be written with more characters
than are ever read, and then the form that it stands in has no form at all.
-/

set_option autoImplicit false

namespace Scratchpad.Url.Domain

/-- A text in ASCII without capitals. -/
def IsLower (text : List Char) : Prop :=
  ∀ c ∈ text, c.toNat < 0x80 ∧ c.isUpper = false

/-- A label that is written as encoded. -/
def IsEncoded (label : List Char) : Prop :=
  ∃ encoded, label = 'x' :: 'n' :: '-' :: '-' :: encoded

/-- A label with more characters than are decoded. -/
def isLong : List Char → Bool
  | 'x' :: 'n' :: '-' :: '-' :: encoded => decodeLimit < encoded.length
  | _ => false

theorem readLabel?_of_not_isEncoded {label : List Char} (plain : ¬ IsEncoded label) :
    readLabel? label = some label := by
  unfold readLabel?
  split
  · exact absurd ⟨_, rfl⟩ plain
  · rfl

theorem not_isLong_of_not_isEncoded {label : List Char} (plain : ¬ IsEncoded label) :
    isLong label = false := by
  unfold isLong
  split
  · exact absurd ⟨_, rfl⟩ plain
  · rfl

/-! ## Texts in lower case -/

theorem isAscii_iff {text : List Char} : isAscii text = true ↔ ∀ c ∈ text, c.toNat < 0x80 := by
  simp [isAscii]

theorem mapped?_of_isStable {text : List Char} (stable : ∀ c ∈ text, isStable c = true) :
    mapped? text = some text := by
  have each : ∀ c ∈ text, isDisallowed c = false ∧ mapping? c = none := by
    intro c member
    simpa [isStable] using stable c member
  have allowed : text.any isDisallowed = false :=
    List.any_eq_false.mpr fun c member => by simp [(each c member).1]
  have stays : (text.flatMap fun c => (mapping? c).getD [c]) = text := by
    clear stable allowed
    induction text with
    | nil => rfl
    | cons c text ih =>
      obtain ⟨⟨-, unmapped⟩, later⟩ := List.forall_mem_cons.mp each
      rw [List.flatMap_cons, ih later, unmapped]
      rfl
  rw [mapped?, allowed, stays]
  rfl

section Lower

variable {text : List Char} (lower : IsLower text)
include lower

theorem mapped?_of_isLower : mapped? text = some text := by
  refine mapped?_of_isStable fun c member => ?_
  obtain ⟨small, notUpper⟩ := lower c member
  have allowed : isDisallowed c = false := by
    have inside : ¬ 0x80 ≤ c.toNat := Nat.not_le.mpr small
    simp [isDisallowed, inside]
  rw [isStable, allowed, mapping?, if_pos small, notUpper]
  rfl

theorem normal_of_isLower : normal text = text := by
  rw [normal, if_pos]
  exact isAscii_iff.mpr fun c member => (lower c member).1

theorem ascii?_of_isLower :
    ascii? text = ((Text.split (· == '.') text).mapM readLabel?).bind fun labels =>
      if labels.all isProper && agree labels then
        some (Text.join ['.'] (labels.map writeLabel))
      else none := by
  rw [ascii?, mapped?_of_isLower lower]
  simp only [Option.bind_eq_bind, Option.bind_some, normal_of_isLower lower]

end Lower

/-! ## Labels -/

/-- What is read as a label of a domain. -/
structure IsLabel (label : List Char) : Prop where
  proper : isProper label = true
  undotted : '.' ∉ label
  uncapital : ∀ c ∈ label, c.isUpper = false
  plain : isAscii label = true → ¬ IsEncoded label

theorem isLabel_of_readLabel? {part label : List Char} (undotted : '.' ∉ part)
    (uncapital : ∀ c ∈ part, c.isUpper = false) (read : readLabel? part = some label)
    (proper : isProper label = true) : IsLabel label := by
  unfold readLabel? at read
  split at read
  · rename_i encoded
    unfold decodeLabel? at read
    split at read
    · cases read
    split at read
    · rename_i text decoded
      split at read
      · cases read
      · rename_i outside
        cases read
        have stable : ∀ c ∈ label, isStable c = true := by
          simp only [isProper, outside, Bool.false_or, Bool.and_eq_true, List.all_eq_true] at proper
          exact proper.1.2
        refine ⟨proper, fun dot => ?_, fun c member => not_isUpper_of_isStable (stable c member),
          fun ascii => absurd ascii outside⟩
        rcases Punycode.mem_decode? decoded dot with inside | beyond
        · exact undotted (by simp [inside])
        · exact absurd beyond (by decide)
    · cases read
  · rename_i plain
    cases read
    exact ⟨proper, undotted, uncapital, fun _ ⟨encoded, same⟩ => plain encoded same⟩

theorem digit_lower {n : Nat} (small : n < 36) :
    (Punycode.digit n).toNat < 0x80 ∧ (Punycode.digit n).isUpper = false ∧
      Punycode.digit n ≠ '.' := by
  have all : ∀ n < 36, (Punycode.digit n).toNat < 0x80 ∧ (Punycode.digit n).isUpper = false ∧
      Punycode.digit n ≠ '.' := by decide
  exact all n small

namespace IsLabel

variable {label : List Char} (isLabel : IsLabel label)
include isLabel

theorem mem_writeLabel {c : Char} (member : c ∈ writeLabel label) :
    c.toNat < 0x80 ∧ c.isUpper = false ∧ c ≠ '.' := by
  have own (inside : c ∈ label) : c.isUpper = false ∧ c ≠ '.' :=
    ⟨isLabel.uncapital c inside, fun dot => isLabel.undotted (dot ▸ inside)⟩
  unfold writeLabel at member
  split at member
  · rename_i ascii
    exact ⟨isAscii_iff.mp ascii c member, own member⟩
  · simp only [List.mem_cons] at member
    rcases member with rfl | rfl | rfl | rfl | encoded
    · decide
    · decide
    · decide
    · decide
    rcases Punycode.mem_encode encoded with ⟨inside, small⟩ | rfl | ⟨n, small, rfl⟩
    · exact ⟨small, own inside⟩
    · decide
    · exact digit_lower small

theorem isLower_writeLabel : IsLower (writeLabel label) := by
  intro c member
  obtain ⟨small, notUpper, -⟩ := isLabel.mem_writeLabel member
  exact ⟨small, notUpper⟩

theorem undotted_writeLabel : '.' ∉ writeLabel label :=
  fun dot => (isLabel.mem_writeLabel dot).2.2 rfl

/-- A label is read as what it was written for, unless it is too long to be read. -/
theorem readLabel?_writeLabel :
    readLabel? (writeLabel label) =
      if isLong (writeLabel label) then none else some label := by
  cases ascii : isAscii label with
  | true =>
    have written : writeLabel label = label := if_pos ascii
    rw [written, readLabel?_of_not_isEncoded (isLabel.plain ascii),
      not_isLong_of_not_isEncoded (isLabel.plain ascii)]
    rfl
  | false =>
    have written : writeLabel label = 'x' :: 'n' :: '-' :: '-' :: Punycode.encode label := by
      rw [writeLabel, ascii]
      rfl
    rw [written]
    simp [readLabel?, decodeLabel?, isLong, Punycode.decode?_encode, ascii]

end IsLabel

theorem mapM_readLabel? {labels : List (List Char)} (each : ∀ label ∈ labels, IsLabel label) :
    (labels.map writeLabel).mapM readLabel? =
      if (labels.map writeLabel).any isLong then none else some labels := by
  induction labels with
  | nil => rfl
  | cons label labels ih =>
    obtain ⟨here, later⟩ := List.forall_mem_cons.mp each
    rw [List.map_cons, List.mapM_cons, here.readLabel?_writeLabel, ih later, List.any_cons]
    cases isLong (writeLabel label) with
    | true => rfl
    | false => cases (labels.map writeLabel).any isLong <;> rfl

/-! ## Domains -/

/-- A domain with a form consists of labels that are proper and agree. -/
theorem exists_labels {domain name : List Char} (formed : ascii? domain = some name) :
    ∃ labels, labels ≠ [] ∧ (∀ label ∈ labels, IsLabel label) ∧ agree labels = true ∧
      name = Text.join ['.'] (labels.map writeLabel) := by
  simp only [ascii?, Option.bind_eq_bind, Option.bind_eq_some_iff] at formed
  obtain ⟨mapped, maps, labels, reads, joined⟩ := formed
  split at joined
  · rename_i checked
    obtain ⟨proper, agrees⟩ := Bool.and_eq_true_iff.mp checked
    cases joined
    have uncapital := not_isUpper_normal (not_isUpper_of_mapped? maps)
    refine ⟨labels, ?_, fun label member => ?_, agrees, rfl⟩
    · rintro rfl
      obtain ⟨part, parts, cut⟩ := Text.split_eq_cons (· == '.') (normal mapped)
      rw [cut, List.mapM_cons] at reads
      simp [Option.bind_eq_some_iff] at reads
    · obtain ⟨part, present, read⟩ := Text.exists_part_of_mapM reads member
      refine isLabel_of_readLabel? (fun dot => ?_) (fun c inside => ?_) read
        (List.all_eq_true.mp proper label member)
      · exact absurd (Text.not_separates_of_mem_split present '.' dot) (by decide)
      · exact uncapital c (Text.mem_of_mem_split present inside)
  · cases joined

/-- Written labels are read as a domain that is its own form, unless one of them is too long to be
read. -/
theorem ascii?_join {labels : List (List Char)} (filled : labels ≠ [])
    (each : ∀ label ∈ labels, IsLabel label) (agrees : agree labels = true) :
    IsLower (Text.join ['.'] (labels.map writeLabel)) ∧
      ascii? (Text.join ['.'] (labels.map writeLabel)) =
        if (Text.split (· == '.') (Text.join ['.'] (labels.map writeLabel))).any isLong then none
        else some (Text.join ['.'] (labels.map writeLabel)) := by
  have lower : IsLower (Text.join ['.'] (labels.map writeLabel)) := by
    intro c member
    rcases Text.mem_join_of member with dot | ⟨part, present, inside⟩
    · rw [List.mem_singleton.mp dot]
      decide
    · obtain ⟨label, listed, rfl⟩ := List.mem_map.mp present
      exact (each label listed).isLower_writeLabel c inside
  have cut : Text.split (· == '.') (Text.join ['.'] (labels.map writeLabel)) =
      labels.map writeLabel := by
    refine Text.split_join (by simpa using filled) fun part member => ?_
    obtain ⟨label, listed, rfl⟩ := List.mem_map.mp member
    exact (each label listed).undotted_writeLabel
  have checked : (labels.all isProper && agree labels) = true :=
    Bool.and_eq_true_iff.mpr
      ⟨List.all_eq_true.mpr fun label member => (each label member).proper, agrees⟩
  refine ⟨lower, ?_⟩
  rw [ascii?_of_isLower lower, cut, mapM_readLabel? each]
  split
  · rfl
  · rw [Option.bind_some, if_pos checked]

theorem ascii?_of_ascii? {domain name : List Char} (formed : ascii? domain = some name) :
    IsLower name ∧
      ascii? name = if (Text.split (· == '.') name).any isLong then none else some name := by
  obtain ⟨labels, filled, each, agrees, rfl⟩ := exists_labels formed
  exact ascii?_join filled each agrees

theorem not_turns_of_ascii {c : Char} (small : c.toNat < 0x80) : turns c = false := by
  unfold turns direction
  rw [if_pos small]
  split
  · rfl
  · split <;> rfl

/-- A text in lower case without encoded labels is its own form. -/
theorem ascii?_of_plain {text : List Char} (lower : IsLower text)
    (plain : ∀ label ∈ Text.split (· == '.') text, ¬ IsEncoded label) :
    ascii? text = some text := by
  have inside {label : List Char} (member : label ∈ Text.split (· == '.') text) {c : Char}
      (present : c ∈ label) : c.toNat < 0x80 ∧ c.isUpper = false :=
    lower c (Text.mem_of_mem_split member present)
  have ascii : ∀ label ∈ Text.split (· == '.') text, isAscii label = true :=
    fun label member => isAscii_iff.mpr fun c present => (inside member present).1
  have each : ∀ label ∈ Text.split (· == '.') text, IsLabel label := by
    intro label member
    refine ⟨?_, fun dot => ?_, fun c present => (inside member present).2, fun _ => plain _ member⟩
    · rw [isProper, ascii label member]
      rfl
    · exact absurd (Text.not_separates_of_mem_split member '.' dot) (by decide)
  have agrees : agree (Text.split (· == '.') text) = true := by
    have straight : (Text.split (· == '.') text).any (·.any turns) = false := by
      refine List.any_eq_false.mpr fun label member => ?_
      rw [Bool.not_eq_true]
      exact List.any_eq_false.mpr fun c present => by
        simp [not_turns_of_ascii (inside member present).1]
    rw [agree, straight]
    rfl
  have short : (Text.split (· == '.') text).any isLong = false := by
    refine List.any_eq_false.mpr fun label member => ?_
    rw [not_isLong_of_not_isEncoded (plain label member)]
    exact Bool.false_ne_true
  have written : (Text.split (· == '.') text).map writeLabel = Text.split (· == '.') text := by
    have same : ∀ label ∈ Text.split (· == '.') text, writeLabel label = id label :=
      fun label member => if_pos (ascii label member)
    rw [List.map_congr_left same, List.map_id]
  have formed := (ascii?_join (Text.split_ne_nil (· == '.') text) each agrees).2
  rwa [written, Text.join_split, short] at formed

end Scratchpad.Url.Domain
