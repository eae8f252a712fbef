import Scratchpad.Proofs.Text.Table
import Scratchpad.Proofs.Text.Utf8
import Scratchpad.Url.Domain

/-!
# What the tables never say

Neither the table of mappings nor that of compositions leads to a capital of ASCII.
-/

set_option autoImplicit false

namespace Scratchpad.Url.Domain

open Text.Table

def isCapital (code : Nat) : Bool :=
  0x41 ≤ code && code ≤ 0x5A

/-! ## Going through the tables -/

/-- A rule that leads to no capital, even if its target moves on. -/
def isOrdinary (rule : Rule) : Bool :=
  rule.target.all fun code =>
    Nat.blt 0x5A code || Nat.blt (code + (rule.last - rule.first)) 0x41

/-- A rule with no capital in it. -/
def isUncapital (rule : Rule) : Bool :=
  rule.target.all (!isCapital ·) && !isCapital rule.first

set_option maxRecDepth 20000 in
theorem mappingRows_ordinary :
    HoldsThroughout (fun item => isOrdinary (Recursor.rule item)) mappingRows := by
  apply Exists.intro
  constructor
  · unfold mappingRows
    repeat apply spelled_cons
    exact spelled_nil
  · decide +kernel

set_option maxRecDepth 20000 in
theorem compositionRows_uncapital :
    HoldsThroughout (fun item => isUncapital (Recursor.rule item)) compositionRows := by
  apply Exists.intro
  constructor
  · unfold compositionRows
    repeat apply spelled_cons
    exact spelled_nil
  · decide +kernel

/-! ## Capitals -/

theorem isUpper_eq (c : Char) : c.isUpper = isCapital c.toNat := by
  rw [Bool.eq_iff_iff]
  unfold Char.isUpper
  simp only [isCapital, Bool.and_eq_true, decide_eq_true_eq]
  exact Iff.rfl

theorem isCapital_ofNat {code : Nat} (other : isCapital code = false) :
    isCapital (Char.ofNat code).toNat = false := by
  by_cases valid : code.isValidChar
  · rwa [Text.toNat_ofNat_of_valid valid]
  · rw [Char.ofNat, dif_neg valid]
    rfl

theorem isCapital_image {rule : Rule} (ordinary : isOrdinary rule = true) {code : Nat}
    {image : List Nat} (mapped : rule.image? code = some image) :
    ∀ result ∈ image, isCapital result = false := by
  intro result member
  have targets := List.all_eq_true.mp ordinary
  unfold Rule.image? at mapped
  split at mapped
  · rename_i inside
    simp only [Bool.and_eq_true, decide_eq_true_eq] at inside
    cases mapped
    split at member
    · obtain ⟨target, listed, rfl⟩ := List.mem_map.mp member
      have := targets target listed
      simp [isCapital] at this ⊢
      omega
    · have := targets result member
      simp [isCapital] at this ⊢
      omega
  · cases mapped

theorem not_isUpper_toLower {c : Char} (small : c.toNat < 0x80) : c.toLower.isUpper = false := by
  have all : ∀ code < 0x80, (Char.ofNat code).toLower.isUpper = false := by decide +kernel
  rw [← Char.ofNat_toNat c]
  exact all c.toNat small

theorem not_isUpper_of_mapping? {c : Char} {image : List Char} (mapped : mapping? c = some image) :
    ∀ d ∈ image, d.isUpper = false := by
  intro d member
  unfold mapping? at mapped
  split at mapped
  · rename_i small
    split at mapped
    · cases mapped
      rw [List.mem_singleton.mp member]
      exact not_isUpper_toLower small
    · cases mapped
  · obtain ⟨codes, found, rfl⟩ := Option.map_eq_some_iff.mp mapped
    obtain ⟨code, listed, rfl⟩ := List.mem_map.mp member
    obtain ⟨rule, present, image⟩ := List.exists_of_findSome?_eq_some found
    rw [isUpper_eq]
    exact isCapital_ofNat (isCapital_image (forall_rules mappingRows_ordinary rule present)
      image code listed)

theorem not_isUpper_of_isStable {c : Char} (stable : isStable c = true) : c.isUpper = false := by
  simp only [isStable, Bool.and_eq_true, Option.isNone_iff_eq_none] at stable
  refine Bool.eq_false_iff.mpr fun upper => ?_
  have small : c.toNat < 0x80 := by
    rw [isUpper_eq] at upper
    simp only [isCapital, Bool.and_eq_true, decide_eq_true_eq] at upper
    omega
  rw [mapping?, if_pos small, if_pos upper] at stable
  cases stable.2

/-- No capital is left when a domain is mapped. -/
theorem not_isUpper_of_mapped? {domain mapped : List Char} (maps : mapped? domain = some mapped) :
    ∀ c ∈ mapped, c.isUpper = false := by
  intro c member
  unfold mapped? at maps
  split at maps
  · cases maps
  · rename_i allowed
    cases maps
    obtain ⟨d, present, inside⟩ := List.mem_flatMap.mp member
    cases given : mapping? d with
    | some image =>
      rw [given] at inside
      exact not_isUpper_of_mapping? given c inside
    | none =>
      rw [given] at inside
      rw [List.mem_singleton.mp inside]
      refine not_isUpper_of_isStable (Bool.and_eq_true_iff.mpr ⟨?_, by rw [given]; rfl⟩)
      simpa using fun bad => allowed (List.any_eq_true.mpr ⟨d, present, bad⟩)

end Scratchpad.Url.Domain
