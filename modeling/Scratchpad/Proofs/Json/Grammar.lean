import Scratchpad.Json.Draft
import Scratchpad.Json.Value

/-!
# The grammar of JSON texts

What it is for a text to be JSON, and which value it then has, said without reading it. Every
relation is between a text, what stands at its front, and the text that is left. Blanks may stand
before each token. A character of a string may be written as itself or by any of its escapes, and a
number by any numeral with its value, so one value has many texts.

Nothing here bounds how deeply values are nested: that is a matter of readers, and `Value.depth`
says how much of it a value needs.
-/

set_option autoImplicit false

namespace Scratchpad.Json

/-! ## Blanks -/

inductive Blanks : List Char → List Char → Prop where
  | none {cs} : Blanks cs cs
  | more {c cs rest} : isSpace c = true → Blanks cs rest → Blanks (c :: cs) rest

/-! ## Strings -/

/-- The escapes of one letter, with the characters that they stand for. -/
def escapes : List (Char × Char) :=
  [('"', '"'), ('\\', '\\'), ('/', '/'), ('b', '\x08'), ('f', '\x0c'), ('n', '\n'), ('r', '\r'),
    ('t', '\t')]

/-- One character of a string. -/
inductive Letter : List Char → Char → List Char → Prop where
  | plain {c rest} : c ≠ '"' → c ≠ '\\' → 0x20 ≤ c.toNat → Letter (c :: rest) c rest
  | short {letter c rest} : (letter, c) ∈ escapes → Letter ('\\' :: letter :: rest) c rest
  | unit {w x y z c rest} : hexUnit? w x y z = some c.toNat →
      Letter ('\\' :: 'u' :: w :: x :: y :: z :: rest) c rest
  /-- A character beyond U+FFFF is written as two surrogates. -/
  | pair {w x y z w' x' y' z' high low c rest} : hexUnit? w x y z = some high →
      0xD800 ≤ high → high < 0xDC00 → hexUnit? w' x' y' z' = some low →
      0xDC00 ≤ low → low < 0xE000 →
      c.toNat = 0x10000 + (high - 0xD800) * 0x400 + (low - 0xDC00) →
      Letter ('\\' :: 'u' :: w :: x :: y :: z :: '\\' :: 'u' :: w' :: x' :: y' :: z' :: rest)
        c rest

/-- The characters of a string up to its closing quote. -/
inductive Letters : List Char → List Char → List Char → Prop where
  | close {rest} : Letters ('"' :: rest) [] rest
  | more {cs c mid text rest} : Letter cs c mid → Letters mid text rest →
      Letters cs (c :: text) rest

/-! ## Numerals -/

def AreDigits (ds : List Char) : Prop :=
  ds ≠ [] ∧ ∀ d ∈ ds, isDigit d = true

inductive FractionText : Option (List Char) → List Char → Prop where
  | none : FractionText none []
  | some {ds} : AreDigits ds → FractionText (some ds) ('.' :: ds)

/-- The optional sign of an exponent; true stands for minus. -/
inductive ExponentSign : Bool → List Char → Prop where
  | none : ExponentSign false []
  | plus : ExponentSign false ['+']
  | minus : ExponentSign true ['-']

inductive ExponentText : Option (Bool × List Char) → List Char → Prop where
  | none : ExponentText none []
  | some {mark down sign ds} : mark = 'e' ∨ mark = 'E' → ExponentSign down sign → AreDigits ds →
      ExponentText (some (down, ds)) (mark :: (sign ++ ds))

/-- The text of a numeral. A zero before the point stands alone. -/
inductive NumeralText : Numeral → List Char → Prop where
  | of {negative whole fraction exponent point scale} : AreDigits whole →
      (whole.head? = some '0' → whole = ['0']) → FractionText fraction point →
      ExponentText exponent scale →
      NumeralText ⟨negative, whole, fraction, exponent⟩
        ((if negative then ['-'] else []) ++ (whole ++ (point ++ scale)))

/-! ## Values -/

/-- What stands before an item or a member: a comma, unless it is the first one. -/
inductive Lead : Bool → List Char → List Char → Prop where
  | first {cs} : Lead true cs cs
  | comma {cs rest} : Blanks cs (',' :: rest) → Lead false cs rest

mutual

inductive Written : List Char → Value → List Char → Prop where
  | null {cs rest} : Blanks cs ('n' :: 'u' :: 'l' :: 'l' :: rest) → Written cs .null rest
  | yes {cs rest} : Blanks cs ('t' :: 'r' :: 'u' :: 'e' :: rest) →
      Written cs (.boolean true) rest
  | no {cs rest} : Blanks cs ('f' :: 'a' :: 'l' :: 's' :: 'e' :: rest) →
      Written cs (.boolean false) rest
  | number {cs numeral body n rest} : Blanks cs (body ++ rest) → NumeralText numeral body →
      numeral.value? = some n → Written cs (.number n) rest
  | string {cs body text rest} : Blanks cs ('"' :: body) → Letters body text.toList rest →
      Written cs (.string text) rest
  | array {cs body items rest} : Blanks cs ('[' :: body) → WrittenItems true body items rest →
      Written cs (.array items) rest
  | object {cs body members rest} : Blanks cs ('\x7b' :: body) →
      WrittenMembers true body members rest → Written cs (.object members) rest

/-- The items of an array up to its end; the first argument tells that none came before. -/
inductive WrittenItems : Bool → List Char → List Value → List Char → Prop where
  | close {first cs rest} : Blanks cs (']' :: rest) → WrittenItems first cs [] rest
  | item {first cs start item mid items rest} : Lead first cs start → Written start item mid →
      WrittenItems false mid items rest → WrittenItems first cs (item :: items) rest

/-- The members of an object up to its end; the first argument tells that none came before. -/
inductive WrittenMembers : Bool → List Char → List (String × Value) → List Char → Prop where
  | close {first cs rest} : Blanks cs ('\x7d' :: rest) → WrittenMembers first cs [] rest
  | member {first cs start body key colon value mid after members rest} : Lead first cs start →
      Blanks start ('"' :: body) → Letters body key.toList colon → Blanks colon (':' :: value) →
      Written value mid after → WrittenMembers false after members rest →
      WrittenMembers first cs ((key, mid) :: members) rest

end

/-- The text has the value, and nothing else but blanks. -/
def Holds (text : String) (value : Value) : Prop :=
  ∃ rest, Written text.toList value rest ∧ Blanks rest []

/-! ## Nesting -/

namespace Value

mutual

/-- How many containers are opened inside one another. -/
def depth : Value → Nat
  | .array items => itemsDepth items + 1
  | .object members => membersDepth members + 1
  | _ => 0

def itemsDepth : List Value → Nat
  | [] => 0
  | item :: items => max item.depth (itemsDepth items)

def membersDepth : List (String × Value) → Nat
  | [] => 0
  | (_, value) :: members => max value.depth (membersDepth members)

end

theorem itemsDepth_le_iff {items : List Value} {room : Nat} :
    itemsDepth items ≤ room ↔ ∀ item ∈ items, item.depth ≤ room := by
  induction items with
  | nil => simp [itemsDepth]
  | cons item items ih => simp only [itemsDepth, Nat.max_le, ih, List.forall_mem_cons]

theorem membersDepth_le_iff {members : List (String × Value)} {room : Nat} :
    membersDepth members ≤ room ↔ ∀ member ∈ members, member.2.depth ≤ room := by
  induction members with
  | nil => simp [membersDepth]
  | cons member members ih => simp only [membersDepth, Nat.max_le, ih, List.forall_mem_cons]

end Value

/-! ## Lengths

What stands at the front of a text has at least one character, so what is left is shorter. -/

theorem Blanks.length_le {cs rest : List Char} (blanks : Blanks cs rest) :
    rest.length ≤ cs.length := by
  induction blanks with
  | none => exact Nat.le_refl _
  | more _ _ ih => exact Nat.le_succ_of_le ih

theorem Letter.length_lt {cs rest : List Char} {c : Char} (letter : Letter cs c rest) :
    rest.length < cs.length := by
  cases letter <;> simp only [List.length_cons] <;> omega

theorem Letters.length_lt {cs text rest : List Char} (letters : Letters cs text rest) :
    rest.length < cs.length := by
  induction letters with
  | close => exact Nat.lt_succ_self _
  | more letter _ ih => exact Nat.lt_trans ih letter.length_lt

theorem NumeralText.ne_nil {numeral : Numeral} {body : List Char}
    (text : NumeralText numeral body) : body ≠ [] := by
  cases text with
  | of digits _ _ _ => simp [digits.1]

theorem Lead.length_le {first : Bool} {cs rest : List Char} (lead : Lead first cs rest) :
    rest.length ≤ cs.length := by
  cases lead with
  | first => exact Nat.le_refl _
  | comma blanks => exact Nat.le_trans (Nat.le_succ _) blanks.length_le

mutual

theorem Written.length_lt {cs rest : List Char} :
    ∀ {value : Value}, Written cs value rest → rest.length < cs.length
  | .null, .null blanks => by
    have shorter := blanks.length_le
    simp only [List.length_cons] at shorter
    omega
  | .boolean true, .yes blanks => by
    have shorter := blanks.length_le
    simp only [List.length_cons] at shorter
    omega
  | .boolean false, .no blanks => by
    have shorter := blanks.length_le
    simp only [List.length_cons] at shorter
    omega
  | .number _, .number blanks text _ => by
    have shorter := blanks.length_le
    have some := List.length_pos_iff.mpr text.ne_nil
    rw [List.length_append] at shorter
    omega
  | .string _, .string blanks letters => Nat.lt_trans letters.length_lt blanks.length_le
  | .array _, .array blanks inside => Nat.lt_trans inside.length_lt blanks.length_le
  | .object _, .object blanks inside => Nat.lt_trans inside.length_lt blanks.length_le

theorem WrittenItems.length_lt {first : Bool} {cs rest : List Char} :
    ∀ {items : List Value}, WrittenItems first cs items rest → rest.length < cs.length
  | [], .close blanks => blanks.length_le
  | _ :: _, .item lead here others =>
    calc rest.length
      _ < _ := others.length_lt
      _ < _ := here.length_lt
      _ ≤ cs.length := lead.length_le

theorem WrittenMembers.length_lt {first : Bool} {cs rest : List Char} :
    ∀ {members : List (String × Value)}, WrittenMembers first cs members rest →
      rest.length < cs.length
  | [], .close blanks => blanks.length_le
  | (_, _) :: _, .member lead quote letters colon here others =>
    calc rest.length
      _ < _ := others.length_lt
      _ < _ := here.length_lt
      _ < _ := colon.length_le
      _ < _ := letters.length_lt
      _ < _ := quote.length_le
      _ ≤ cs.length := lead.length_le

end

end Scratchpad.Json
