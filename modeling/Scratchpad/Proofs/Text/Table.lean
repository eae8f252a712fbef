import Scratchpad.Proofs.Text.Split
import Scratchpad.Text.Table

/-!
# Tables are gone through

What a table of many thousand characters never says is found out by going through all of it. For
this a row, which is a literal, is taken apart into its characters, and reading is restated with
nothing but recursors and numbers. This is the form in which it is evaluated fast.
-/

set_option autoImplicit false

namespace Scratchpad.Text.Table

/-! ## Reading by recursors -/

namespace Recursor

/-- Whether a character is a given one. -/
def is (mark c : Char) : Bool :=
  Nat.beq c.toNat mark.toNat

noncomputable section

def number (digits : List Char) : Nat :=
  (List.rec (fun n => n)
    (fun c _ further n => further
      (n * 16 + bif Nat.ble c.toNat '9'.toNat then c.toNat - '0'.toNat
        else c.toNat - 'A'.toNat + 10))
    digits : Nat → Nat) 0

def split (separates : Char → Bool) (cs : List Char) : List (List Char) :=
  List.rec [[]]
    (fun c _ parts => bif separates c then [] :: parts
      else List.rec [[c]] (fun part parts _ => (c :: part) :: parts) parts) cs

/-- What stands before the first of some characters. -/
def before (ends : Char → Bool) (cs : List Char) : List Char :=
  List.rec [] (fun c _ front => bif ends c then [] else c :: front) cs

/-- What stands after the first of some characters. -/
def after (ends : Char → Bool) (cs : List Char) : List Char :=
  List.rec [] (fun c rest back => bif ends c then rest else back) cs

/-- The signs between the first and the last code point of an item. -/
def isDash (c : Char) : Bool :=
  is '-' c || is '/' c

/-- The signs before what an item is mapped to. -/
def isSign (c : Char) : Bool :=
  is '=' c || is '>' c

def range (item : List Char) : Nat × Nat :=
  (number (before isDash item),
    List.rec (number (before isDash item)) (fun c cs _ => number (c :: cs)) (after isDash item))

def rule (item : List Char) : Rule where
  first := (range (before isSign item)).1
  last := (range (before isSign item)).2
  step := bif (before isSign item).any (is '/') then 2 else 1
  target := ((split (is ',') (after isSign item)).filter (!·.isEmpty)).map number
  moves := item.any (is '>')

end

/-! ## Nothing else is read -/

theorem is_eq_beq (mark : Char) : is mark = (· == mark) := by
  funext c
  rw [Bool.eq_iff_iff, beq_iff_eq, ← Char.toNat_inj]
  exact Nat.beq_eq ▸ Iff.rfl

theorem any_is (mark : Char) (cs : List Char) : cs.any (is mark) = cs.contains mark := by
  rw [is_eq_beq, List.contains_eq_any_beq]
  congr 1
  funext c
  exact Bool.beq_comm

theorem number_eq (digits : List Char) : number digits = Table.number digits := by
  unfold number Table.number
  generalize 0 = n
  induction digits generalizing n with
  | nil => rfl
  | cons c digits ih =>
    have same : (bif Nat.ble c.toNat '9'.toNat then c.toNat - '0'.toNat
        else c.toNat - 'A'.toNat + 10) = digit c := by
      have digits : Nat.ble c.toNat '9'.toNat = decide (c ≤ '9') := by
        rw [Bool.eq_iff_iff, Nat.ble_eq, decide_eq_true_eq]
        exact Iff.rfl
      rw [digits, Bool.cond_decide, digit]
    rw [List.foldl_cons, ← same]
    exact ih _

theorem split_eq (separates : Char → Bool) (cs : List Char) :
    split separates cs = Text.split separates cs := by
  induction cs with
  | nil => rfl
  | cons c cs ih =>
    have step : split separates (c :: cs) = bif separates c then [] :: split separates cs
        else List.rec [[c]] (fun part parts _ => (c :: part) :: parts) (split separates cs) := rfl
    rw [step, Text.split, ih]
    cases separates c with
    | true => rfl
    | false => cases Text.split separates cs <;> rfl

theorem before_eq (ends : Char → Bool) (cs : List Char) :
    before ends cs = cs.takeWhile (!ends ·) := by
  induction cs with
  | nil => rfl
  | cons c cs ih =>
    have step : before ends (c :: cs) = bif ends c then [] else c :: before ends cs := rfl
    rw [step, List.takeWhile_cons, ih]
    cases ends c <;> rfl

theorem after_eq (ends : Char → Bool) (cs : List Char) :
    after ends cs = (cs.dropWhile (!ends ·)).drop 1 := by
  induction cs with
  | nil => rfl
  | cons c cs ih =>
    have step : after ends (c :: cs) = bif ends c then cs else after ends cs := rfl
    rw [step, List.dropWhile_cons, ih]
    cases ends c <;> rfl

theorem cut_eq (first second : Char) (item : List Char) :
    cut [first, second] item =
      (before (fun c => is first c || is second c) item,
        after (fun c => is first c || is second c) item) := by
  have same (c : Char) : [first, second].contains c = (is first c || is second c) := by
    simp [is_eq_beq, Bool.beq_eq_decide_eq]
  simp only [cut, same, before_eq, after_eq]

theorem range_eq (item : List Char) : range item = Table.range item := by
  have cut : cut ['-', '/'] item = (before isDash item, after isDash item) := cut_eq '-' '/' item
  unfold range Table.range
  rw [cut]
  cases after isDash item <;> simp only [number_eq]

theorem rule_eq (item : List Char) : rule item = Table.rule item := by
  have cut : cut ['=', '>'] item = (before isSign item, after isSign item) := cut_eq '=' '>' item
  have value : number = Table.number := funext number_eq
  unfold rule Table.rule
  rw [cut, any_is, any_is, range_eq, split_eq, is_eq_beq, value, cond_eq_ite]

end Recursor

/-! ## Rows -/

theorem spelled_nil : ([] : List String) = List.map String.ofList [] := rfl

theorem spelled_cons {cs : List Char} {rows : List String} {spelled : List (List Char)}
    (same : rows = spelled.map String.ofList) :
    String.ofList cs :: rows = (cs :: spelled).map String.ofList := by
  rw [same, List.map_cons]

/-- Whether all items of a row have a property. -/
noncomputable def holdsIn (property : List Char → Bool) (row : List Char) : Bool :=
  (Recursor.split (Recursor.is ' ') row).all fun item => item.isEmpty || property item

/-- All items of a table have a property, as is seen from the characters of its rows. -/
def HoldsThroughout (property : List Char → Bool) (rows : List String) : Prop :=
  ∃ spelled : List (List Char),
    rows = spelled.map String.ofList ∧ spelled.all (holdsIn property) = true

theorem forall_items {property : List Char → Bool} {rows : List String}
    (held : HoldsThroughout property rows) : ∀ item ∈ items rows, property item = true := by
  obtain ⟨spelled, rfl, all⟩ := held
  intro item member
  obtain ⟨row, present, inside⟩ := List.mem_flatMap.mp member
  obtain ⟨cs, given, rfl⟩ := List.mem_map.mp present
  rw [String.toList_ofList, List.mem_filter] at inside
  have here := List.all_eq_true.mp all cs given
  rw [holdsIn, Recursor.split_eq, Recursor.is_eq_beq, List.all_eq_true] at here
  exact (Bool.or_eq_true_iff.mp (here item inside.1)).resolve_left (by simpa using inside.2)

theorem forall_rules {property : Rule → Bool} {rows : List String}
    (held : HoldsThroughout (fun item => property (Recursor.rule item)) rows) :
    ∀ rule ∈ rules rows, property rule = true := by
  intro rule member
  obtain ⟨item, present, rfl⟩ := List.mem_map.mp member
  rw [← Recursor.rule_eq]
  exact forall_items held item present

end Scratchpad.Text.Table
