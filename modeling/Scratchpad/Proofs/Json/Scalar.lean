import Scratchpad.Proofs.Json.Grammar
import Scratchpad.Proofs.Text.Utf8

/-!
# Tokens are read as they are written

The readers of blanks, strings and numerals agree with the grammar in both directions: what is
written at the front of a text is what is read from it, with the same text left, and what is read
was written there. Only a numeral needs to know what comes after it, because a longer one would be
read if more digits followed.
-/

set_option autoImplicit false

namespace Scratchpad.Json

/-! ## Blanks -/

theorem Blanks.skipSpace_eq {cs rest : List Char} (blanks : Blanks cs rest) :
    skipSpace cs = skipSpace rest := by
  induction blanks with
  | none => rfl
  | more space _ ih => rw [skipSpace, List.dropWhile_cons_of_pos space, ← ih, skipSpace]

theorem Blanks.skipSpace_cons {cs rest : List Char} {c : Char} (blanks : Blanks cs (c :: rest))
    (token : isSpace c = false) : skipSpace cs = c :: rest := by
  rw [blanks.skipSpace_eq, skipSpace, List.dropWhile_cons_of_neg (by simp [token])]

theorem blanks_skipSpace (cs : List Char) : Blanks cs (skipSpace cs) := by
  induction cs with
  | nil => exact .none
  | cons c cs ih =>
    rw [skipSpace]
    cases space : isSpace c with
    | true =>
      rw [List.dropWhile_cons_of_pos space]
      exact .more space ih
    | false =>
      rw [List.dropWhile_cons_of_neg (by simp [space])]
      exact .none

theorem length_le_of_skipSpace {cs rest : List Char} (skipped : skipSpace cs = rest) :
    rest.length ≤ cs.length := by
  rw [← skipped]
  exact (blanks_skipSpace cs).length_le

theorem Blanks.trans {cs mid rest : List Char} (first : Blanks cs mid) (second : Blanks mid rest) :
    Blanks cs rest := by
  induction first with
  | none => exact second
  | more space _ ih => exact .more space (ih second)

theorem skipSpace_eq_nil_iff {cs : List Char} : skipSpace cs = [] ↔ Blanks cs [] := by
  constructor
  · intro none
    rw [← none]
    exact blanks_skipSpace cs
  · intro blanks
    exact blanks.skipSpace_eq

/-! ## Strings -/

theorem shortEscape?_eq_some_iff {letter c : Char} :
    shortEscape? letter = some c ↔ (letter, c) ∈ escapes := by
  constructor
  · intro known
    unfold shortEscape? at known
    split at known <;> cases known <;> decide
  · intro listed
    simp only [escapes, List.mem_cons, Prod.mk.injEq, List.not_mem_nil, or_false] at listed
    rcases listed with ⟨rfl, rfl⟩ | ⟨rfl, rfl⟩ | ⟨rfl, rfl⟩ | ⟨rfl, rfl⟩ | ⟨rfl, rfl⟩ |
      ⟨rfl, rfl⟩ | ⟨rfl, rfl⟩ | ⟨rfl, rfl⟩ <;> rfl

theorem ne_u_of_mem_escapes {letter c : Char} (listed : (letter, c) ∈ escapes) :
    letter ≠ 'u' := by
  rintro rfl
  simp [escapes] at listed

theorem toNat_between {low high c : Char} (range : (decide (low ≤ c) && decide (c ≤ high)) = true) :
    low.toNat ≤ c.toNat ∧ c.toNat ≤ high.toNat := by
  simp only [Bool.and_eq_true, decide_eq_true_eq, Char.le_def, UInt32.le_iff_toNat_le] at range
  exact range

theorem hexValue?_lt {c : Char} {n : Nat} (digit : hexValue? c = some n) : n < 16 := by
  unfold hexValue? at digit
  split at digit
  · next range =>
    cases digit
    have bounds := toNat_between range
    simp only [Char.reduceToNat] at bounds ⊢
    omega
  split at digit
  · next range =>
    cases digit
    have bounds := toNat_between range
    simp only [Char.reduceToNat] at bounds ⊢
    omega
  split at digit
  · next range =>
    cases digit
    have bounds := toNat_between range
    simp only [Char.reduceToNat] at bounds ⊢
    omega
  · cases digit

theorem hexUnit?_lt {w x y z : Char} {n : Nat} (unit : hexUnit? w x y z = some n) :
    n < 0x10000 := by
  simp only [hexUnit?, Option.bind_eq_bind, Option.pure_def, Option.bind_eq_some_iff,
    Option.some.injEq] at unit
  obtain ⟨a, first, b, second, c, third, d, fourth, rfl⟩ := unit
  have := hexValue?_lt first
  have := hexValue?_lt second
  have := hexValue?_lt third
  have := hexValue?_lt fourth
  omega

/-- The code of a character is no surrogate. -/
theorem not_surrogate (c : Char) :
    isLowSurrogate c.toNat = false ∧ isHighSurrogate c.toNat = false := by
  have valid : c.toNat < 0xD800 ∨ 0xDFFF < c.toNat ∧ c.toNat < 0x110000 := c.valid
  simp only [isLowSurrogate, isHighSurrogate, Bool.and_eq_false_iff, decide_eq_false_iff_not]
  omega

theorem Letter.unquote_eq {cs rest : List Char} {c : Char} (letter : Letter cs c rest) :
    unquote cs = prepend c (unquote rest) := by
  cases letter with
  | plain quote backslash control =>
    have visible : ¬ c.toNat < 0x20 := Nat.not_lt.mpr control
    rw [unquote.eq_def]
    grind
  | @short letter c rest listed =>
    have escape := shortEscape?_eq_some_iff.mpr listed
    have apart := ne_u_of_mem_escapes listed
    rw [unquote.eq_def]
    grind
  | unit unit =>
    obtain ⟨low, high⟩ := not_surrogate c
    simp [unquote, unit, low, high, Char.ofNat_toNat]
  | @pair w x y z w' x' y' z' first second c rest unit least most unit' least' most' code =>
    have low : isLowSurrogate first = false := by
      simp only [isLowSurrogate, Bool.and_eq_false_iff, decide_eq_false_iff_not]
      omega
    have high : isHighSurrogate first = true := by
      simp only [isHighSurrogate, Bool.and_eq_true, decide_eq_true_eq]
      omega
    have low' : isLowSurrogate second = true := by
      simp only [isLowSurrogate, Bool.and_eq_true, decide_eq_true_eq]
      omega
    have same : surrogatePair first second = c := by
      rw [surrogatePair, Nat.add_comm, ← Nat.add_assoc, ← code, Char.ofNat_toNat]
    simp [unquote, unit, unit', low, high, low', same]

theorem Letter.pass_eq {cs rest : List Char} {c : Char} (letter : Letter cs c rest) :
    pass cs = pass rest := by
  cases letter with
  | plain quote backslash control =>
    have visible : ¬ c.toNat < 0x20 := Nat.not_lt.mpr control
    rw [pass.eq_def]
    grind
  | @short letter c rest listed =>
    have escape := shortEscape?_eq_some_iff.mpr listed
    have apart := ne_u_of_mem_escapes listed
    rw [pass.eq_def]
    grind
  | unit unit => simp [pass, unit]
  | pair unit _ _ unit' _ _ _ => simp [pass, unit, unit']

theorem Letters.unquote_eq {cs text rest : List Char} (letters : Letters cs text rest) :
    unquote cs = .ok (text, rest) := by
  induction letters with
  | close => rfl
  | more letter _ ih =>
    rw [letter.unquote_eq, ih]
    rfl

theorem Letters.pass_eq {cs text rest : List Char} (letters : Letters cs text rest) :
    pass cs = .ok rest := by
  induction letters with
  | close => rfl
  | more letter _ ih => rw [letter.pass_eq, ih]

theorem of_prepend {c : Char} {read : Except Fault (List Char × List Char)}
    {text rest : List Char} (done : prepend c read = .ok (text, rest)) :
    ∃ tail, text = c :: tail ∧ read = .ok (tail, rest) := by
  cases read with
  | error fault => cases done
  | ok pair =>
    cases done
    exact ⟨_, rfl, rfl⟩

theorem letters_of_unquote {cs text rest : List Char} (done : unquote cs = .ok (text, rest)) :
    Letters cs text rest := by
  fun_induction unquote cs generalizing text with
  | case2 =>
    cases done
    exact .close
  | case7 w x y z high unit least above w' x' y' z' rest' low unit' below ih =>
    obtain ⟨tail, rfl, later⟩ := of_prepend done
    simp only [isHighSurrogate, isLowSurrogate, Bool.and_eq_true, decide_eq_true_eq] at above below
    refine .more (.pair unit (by omega) (by omega) unit' (by omega) (by omega) ?_) (ih later)
    rw [surrogatePair, Text.toNat_ofNat_of_valid (.inr (by omega))]
    omega
  | case14 w x y z rest' code unit below above ih =>
    obtain ⟨tail, rfl, later⟩ := of_prepend done
    have bound := hexUnit?_lt unit
    simp only [isHighSurrogate, isLowSurrogate, Bool.and_eq_true, decide_eq_true_eq] at above below
    have valid : code.isValidChar := by
      unfold Nat.isValidChar
      omega
    refine .more (.unit ?_) (ih later)
    rw [unit, Text.toNat_ofNat_of_valid valid]
  | case16 letter rest' _ _ c escape ih =>
    obtain ⟨tail, rfl, later⟩ := of_prepend done
    exact .more (.short (shortEscape?_eq_some_iff.mp escape)) (ih later)
  | case19 c rest' quote alone unit short backslash control ih =>
    obtain ⟨tail, rfl, later⟩ := of_prepend done
    refine .more (.plain quote ?_ (by omega)) (ih later)
    rintro rfl
    cases rest' with
    | nil => exact alone rfl rfl
    | cons d rest' => exact backslash d rest' rfl rfl
  | _ => cases done

/-! ## Numerals -/

/-- The text does not go on with a character of a kind. -/
def Stops (kind : Char → Bool) (rest : List Char) : Prop :=
  ∀ c ∈ rest.head?, kind c = false

/-- The characters that a numeral can go on with. -/
def isNumeric (c : Char) : Bool :=
  isDigit c || c == '.' || c == 'e' || c == 'E'

theorem Stops.cons {kind : Char → Bool} {c : Char} (other : kind c = false) (rest : List Char) :
    Stops kind (c :: rest) := by
  intro d first
  cases first
  exact other

theorem Stops.isDigit {rest : List Char} (stops : Stops isNumeric rest) :
    Stops Json.isDigit rest := by
  intro c first
  have other := stops c first
  simp only [isNumeric, Bool.or_eq_false_iff] at other
  exact other.1.1.1

theorem Stops.ne {rest : List Char} (stops : Stops isNumeric rest) {c : Char}
    (numeric : isNumeric c = true) (tail : List Char) : rest ≠ c :: tail := by
  rintro rfl
  cases (stops c rfl).symm.trans numeric

theorem takeWhile_of_stops {kind : Char → Bool} {rest : List Char} (stops : Stops kind rest) :
    rest.takeWhile kind = [] ∧ rest.dropWhile kind = rest := by
  cases rest with
  | nil => exact ⟨rfl, rfl⟩
  | cons c rest =>
    have other : ¬ kind c = true := by simp [stops c rfl]
    exact ⟨List.takeWhile_cons_of_neg other, List.dropWhile_cons_of_neg other⟩

theorem AreDigits.append_ne {ds : List Char} (are : AreDigits ds) {c : Char}
    (other : isDigit c = false) (rest tail : List Char) : ds ++ rest ≠ c :: tail := by
  intro same
  cases ds with
  | nil => exact are.1 rfl
  | cons d ds =>
    cases same
    cases (are.2 c List.mem_cons_self).symm.trans other

namespace Numeral

theorem digits_append {ds rest : List Char} (are : AreDigits ds) (stops : Stops isDigit rest) :
    digits (ds ++ rest) = .ok (ds, rest) := by
  obtain ⟨taken, left⟩ := takeWhile_of_stops stops
  rw [digits, List.takeWhile_append_of_pos are.2, List.dropWhile_append_of_pos are.2, taken, left,
    List.append_nil, if_neg (by simpa using are.1)]

theorem of_digits {cs ds rest : List Char} (done : digits cs = .ok (ds, rest)) :
    AreDigits ds ∧ cs = ds ++ rest := by
  unfold digits at done
  split at done
  · cases done
  · next some =>
    cases done
    refine ⟨⟨by simpa using some, fun d inside => ?_⟩, List.takeWhile_append_dropWhile.symm⟩
    exact List.all_eq_true.mp List.all_takeWhile d inside

theorem isDigit_zero : isDigit '0' = true := by
  decide

theorem wholePart_append {whole rest : List Char} (are : AreDigits whole)
    (alone : whole.head? = some '0' → whole = ['0']) (stops : Stops isDigit rest) :
    wholePart (whole ++ rest) = .ok (whole, rest) := by
  by_cases zero : whole.head? = some '0'
  · rw [alone zero, List.singleton_append]
    cases rest with
    | nil => rfl
    | cons c rest => simp [wholePart, stops c rfl]
  · have other : ∀ tail, whole ++ rest ≠ '0' :: tail := by
      intro tail same
      cases whole with
      | nil => exact are.1 rfl
      | cons d whole =>
        cases same
        exact zero rfl
    rw [wholePart.eq_def]
    split
    · next tail same => exact absurd same (other tail)
    · exact digits_append are stops

theorem of_wholePart {cs whole rest : List Char} (done : wholePart cs = .ok (whole, rest)) :
    AreDigits whole ∧ (whole.head? = some '0' → whole = ['0']) ∧ cs = whole ++ rest := by
  unfold wholePart at done
  split at done
  · split at done
    · split at done
      · cases done
      · cases done
        exact ⟨⟨by simp, by simp [isDigit_zero]⟩, fun _ => rfl, rfl⟩
    · cases done
      exact ⟨⟨by simp, by simp [isDigit_zero]⟩, fun _ => rfl, rfl⟩
  · next other =>
    obtain ⟨are, rfl⟩ := of_digits done
    refine ⟨are, fun zero => ?_, rfl⟩
    cases whole with
    | nil => cases zero
    | cons d whole =>
      cases zero
      exact absurd rfl (other (whole ++ rest))

theorem fractionPart_append {fraction : Option (List Char)} {point rest : List Char}
    (text : FractionText fraction point) (digit : Stops isDigit rest)
    (next : ∀ tail, rest ≠ '.' :: tail) :
    fractionPart (point ++ rest) = .ok (fraction, rest) := by
  cases text with
  | none =>
    rw [List.nil_append, fractionPart.eq_def]
    split
    · next tail => exact absurd rfl (next tail)
    · rfl
  | some are =>
    rw [List.cons_append, fractionPart, digits_append are digit]
    rfl

theorem of_fractionPart {cs rest : List Char} {fraction : Option (List Char)}
    (done : fractionPart cs = .ok (fraction, rest)) :
    ∃ point, FractionText fraction point ∧ cs = point ++ rest := by
  unfold fractionPart at done
  split at done
  · next tail =>
    cases read : digits tail with
    | error at_ => simp [read, bind, Except.bind] at done
    | ok pair =>
      obtain ⟨ds, left⟩ := pair
      rw [read] at done
      cases done
      obtain ⟨are, rfl⟩ := of_digits read
      exact ⟨'.' :: ds, .some are, rfl⟩
  · cases done
    exact ⟨[], .none, rfl⟩

theorem exponentSign_append {down : Bool} {sign ds : List Char} (text : ExponentSign down sign)
    (are : AreDigits ds) (rest : List Char) :
    exponentSign (sign ++ (ds ++ rest)) = (down, ds ++ rest) := by
  cases text with
  | plus => rfl
  | minus => rfl
  | none =>
    rw [List.nil_append, exponentSign.eq_def]
    split
    · next same => exact absurd same (are.append_ne (by decide) rest _)
    · next same => exact absurd same (are.append_ne (by decide) rest _)
    · rfl

theorem of_exponentSign (cs : List Char) :
    ∃ sign, ExponentSign (exponentSign cs).1 sign ∧ cs = sign ++ (exponentSign cs).2 := by
  unfold exponentSign
  split
  · exact ⟨['+'], .plus, rfl⟩
  · exact ⟨['-'], .minus, rfl⟩
  · exact ⟨[], .none, rfl⟩

theorem exponentPart_append {exponent : Option (Bool × List Char)} {scale rest : List Char}
    (text : ExponentText exponent scale) (stops : Stops isNumeric rest) :
    exponentPart (scale ++ rest) = .ok (exponent, rest) := by
  cases text with
  | none =>
    cases rest with
    | nil => rfl
    | cons c rest =>
      have other : (c == 'e' || c == 'E') = false := by
        have numeric := stops c rfl
        simp only [isNumeric, Bool.or_eq_false_iff] at numeric ⊢
        exact ⟨numeric.1.2, numeric.2⟩
      simp [exponentPart, other]
  | @some mark down sign ds marks signs are =>
    have leads : (mark == 'e' || mark == 'E') = true := by
      rcases marks with rfl | rfl <;> rfl
    rw [List.cons_append, List.append_assoc, exponentPart]
    simp only [leads, ↓reduceIte, exponentSign_append signs are, digits_append are stops.isDigit]
    rfl

theorem of_exponentPart {cs rest : List Char} {exponent : Option (Bool × List Char)}
    (done : exponentPart cs = .ok (exponent, rest)) :
    ∃ scale, ExponentText exponent scale ∧ cs = scale ++ rest := by
  unfold exponentPart at done
  split at done
  · next mark tail =>
    split at done
    · next marks =>
      obtain ⟨sign, signs, split⟩ := of_exponentSign tail
      cases read : digits (exponentSign tail).2 with
      | error left => simp [read, bind, Except.bind] at done
      | ok pair =>
        obtain ⟨ds, left⟩ := pair
        simp only [read] at done
        cases done
        obtain ⟨are, same⟩ := of_digits read
        have leads : mark = 'e' ∨ mark = 'E' := by simpa using marks
        refine ⟨mark :: (sign ++ ds), .some leads signs are, ?_⟩
        rw [split, same, List.cons_append, List.append_assoc]
    · cases done
      exact ⟨[], .none, rfl⟩
  · cases done
    exact ⟨[], .none, rfl⟩

/-! ### Whole numerals -/

/-- The digits, the fraction and the exponent of a numeral, one after the other. -/
theorem parts_append {whole point scale rest : List Char} {fraction : Option (List Char)}
    {exponent : Option (Bool × List Char)} (are : AreDigits whole)
    (alone : whole.head? = some '0' → whole = ['0']) (fractions : FractionText fraction point)
    (exponents : ExponentText exponent scale) (stops : Stops isNumeric rest) :
    wholePart (whole ++ (point ++ (scale ++ rest))) = .ok (whole, point ++ (scale ++ rest)) ∧
      fractionPart (point ++ (scale ++ rest)) = .ok (fraction, scale ++ rest) ∧
      exponentPart (scale ++ rest) = .ok (exponent, rest) := by
  have afterScale : Stops isDigit (scale ++ rest) ∧ ∀ tail, scale ++ rest ≠ '.' :: tail := by
    cases exponents with
    | none => exact ⟨stops.isDigit, stops.ne (by decide)⟩
    | some marks _ _ =>
      rcases marks with rfl | rfl
      · exact ⟨.cons (by decide) _, fun _ same => by cases same⟩
      · exact ⟨.cons (by decide) _, fun _ same => by cases same⟩
  have afterPoint : Stops isDigit (point ++ (scale ++ rest)) := by
    cases fractions with
    | none => exact afterScale.1
    | some _ => exact .cons (by decide) _
  exact ⟨wholePart_append are alone afterPoint,
    fractionPart_append fractions afterScale.1 afterScale.2, exponentPart_append exponents stops⟩

theorem read_append {numeral : Numeral} {body rest : List Char} (text : NumeralText numeral body)
    (stops : Stops isNumeric rest) : read (body ++ rest) = .ok (numeral, rest) := by
  cases text with
  | @of negative whole fraction exponent point scale are alone fractions exponents =>
    obtain ⟨first, second, third⟩ := parts_append are alone fractions exponents stops
    cases negative with
    | true => simp [read, first, second, third, bind, Except.bind, pure, Except.pure]
    | false =>
      have unsigned := are.append_ne (c := '-') (by decide) (point ++ (scale ++ rest))
      simp only [Bool.false_eq_true, ↓reduceIte, List.nil_append, List.append_assoc]
      unfold read
      split
      next negative' rest' same =>
        split at same
        · next tail minus => exact absurd minus (unsigned tail)
        · cases same
          simp [first, second, third, bind, Except.bind, pure, Except.pure]

theorem of_read {cs rest : List Char} {numeral : Numeral} (done : read cs = .ok (numeral, rest)) :
    ∃ body, NumeralText numeral body ∧ cs = body ++ rest := by
  unfold read at done
  split at done
  next negative tail same =>
  have signed : cs = (if negative then ['-'] else []) ++ tail := by
    split at same <;> cases same <;> rfl
  subst signed
  cases first : wholePart tail with
  | error left => simp [first, bind, Except.bind] at done
  | ok pair =>
    obtain ⟨whole, afterWhole⟩ := pair
    cases second : fractionPart afterWhole with
    | error left => simp [first, second, bind, Except.bind] at done
    | ok pair =>
      obtain ⟨fraction, afterPoint⟩ := pair
      cases third : exponentPart afterPoint with
      | error left => simp [first, second, third, bind, Except.bind] at done
      | ok pair =>
        obtain ⟨exponent, left⟩ := pair
        simp only [first, second, third, bind, Except.bind] at done
        cases done
        obtain ⟨are, alone, rfl⟩ := of_wholePart first
        obtain ⟨point, fractions, rfl⟩ := of_fractionPart second
        obtain ⟨scale, exponents, rfl⟩ := of_exponentPart third
        exact ⟨_, .of are alone fractions exponents, by simp only [List.append_assoc]⟩

end Numeral

end Scratchpad.Json
