import Mathlib.Data.List.InsertIdx
import Mathlib.Data.List.Sort
import Mathlib.Data.List.TakeWhile
import Scratchpad.Proofs.Text.Split
import Scratchpad.Proofs.Text.Utf8
import Scratchpad.Url.Punycode

/-!
# Encoded text is decoded

A number is read back from its digits, whatever follows them. So while a text is encoded, reading
what is written already has inserted just the characters that were passed: all of them with smaller
code points, and those with the code point at hand as far as the text has been looked through.
What the writer still has to count is what the reader still has to go, and in the end the reader
has the whole text.
-/

set_option autoImplicit false

namespace Scratchpad.Url.Punycode

/-! ## Numbers -/

theorem digitValue?_digit {value : Nat} (small : value < 36) :
    digitValue? (digit value) = some value := by
  have all : ∀ value < 36, digitValue? (digit value) = some value := by decide
  exact all value small

theorem threshold_bounds (place bias : Nat) :
    1 ≤ threshold place bias ∧ threshold place bias ≤ 26 := by
  unfold threshold
  omega

theorem readNumber_last {bias place value : Nat} (last : value < threshold place bias)
    (weight sum : Nat) (rest : List Char) :
    readNumber bias place weight sum (digit value :: rest) =
      some (sum + value * weight, rest) := by
  have small : value < 36 := by
    have := (threshold_bounds place bias).2
    omega
  simp only [readNumber, digitValue?_digit small, if_pos last]

theorem readNumber_further {bias place value : Nat} (further : ¬ value < threshold place bias)
    (small : value < 36) (weight sum : Nat) (rest : List Char) :
    readNumber bias place weight sum (digit value :: rest) =
      readNumber bias (place + 36) (weight * (36 - threshold place bias)) (sum + value * weight)
        rest := by
  rw [readNumber, digitValue?_digit small]
  exact if_neg further

/-- A number is read back from its digits, at any place and weight and before any text. -/
theorem readNumber_digits (bias : Nat) {steps value : Nat} (enough : value < steps)
    (place weight sum : Nat) (rest : List Char) :
    readNumber bias place weight sum (digits bias steps place value ++ rest) =
      some (sum + value * weight, rest) := by
  induction steps generalizing place weight sum value with
  | zero => exact absurd enough (Nat.not_lt_zero value)
  | succ steps ih =>
    rw [digits]
    by_cases last : value < threshold place bias
    · rw [if_pos last, List.singleton_append, readNumber_last last]
    · obtain ⟨least, most⟩ := threshold_bounds place bias
      rw [if_neg last, List.cons_append, readNumber_further (by omega)]
      · generalize threshold place bias = t at least most last ⊢
        have smaller : (value - t) / (36 - t) < steps := by
          have := Nat.div_le_self (value - t) (36 - t)
          omega
        have parts : (value - t) % (36 - t) + (value - t) / (36 - t) * (36 - t) = value - t :=
          Nat.mod_add_div' (value - t) (36 - t)
        have whole : t + (value - t) % (36 - t) + (value - t) / (36 - t) * (36 - t) = value := by
          omega
        have weighed : (value - t) / (36 - t) * (weight * (36 - t)) =
            (value - t) / (36 - t) * (36 - t) * weight := by
          rw [Nat.mul_comm weight, Nat.mul_assoc]
        rw [ih smaller, weighed, Nat.add_assoc, ← Nat.add_mul, whole]
      · have := Nat.mod_lt (value - threshold place bias)
          (show 0 < 36 - threshold place bias by omega)
        omega

theorem length_readNumber {bias place weight sum total : Nat} {numbers rest : List Char}
    (read : readNumber bias place weight sum numbers = some (total, rest)) :
    rest.length < numbers.length := by
  induction numbers generalizing place weight sum with
  | nil => cases read
  | cons c numbers ih =>
    rw [readNumber] at read
    cases value : digitValue? c with
    | none => simp [value] at read
    | some value' =>
      simp only [value] at read
      split at read
      · cases read
        exact Nat.lt_succ_self _
      · exact Nat.lt_succ_of_lt (ih read)

/-! ## Reading -/

/-- More steps than there are characters to read change nothing. -/
theorem decodeFrom_steps {steps others : Nat} {numbers : List Char}
    (enough : numbers.length ≤ steps) (also : numbers.length ≤ others) (code place bias : Nat)
    (output : List Char) :
    decodeFrom steps code place bias output numbers =
      decodeFrom others code place bias output numbers := by
  induction steps generalizing others numbers code place bias output with
  | zero =>
    obtain rfl := List.eq_nil_of_length_eq_zero (Nat.le_zero.mp enough)
    cases others <;> rfl
  | succ steps ih =>
    cases numbers with
    | nil => cases others <;> rfl
    | cons c numbers =>
      cases others with
      | zero => cases also
      | succ others =>
        rw [decodeFrom, decodeFrom]
        cases read : readNumber bias 36 1 place (c :: numbers) with
        | none => rfl
        | some found =>
          obtain ⟨sum, rest⟩ := found
          have shorter := length_readNumber read
          rw [List.length_cons] at enough also shorter
          dsimp only
          split
          · exact ih (by omega) (by omega) _ _ _ _
          · rfl

/-- Read all numbers. -/
def decodeAll (code place bias : Nat) (output numbers : List Char) : Option (List Char) :=
  decodeFrom numbers.length code place bias output numbers

theorem isCharacter_toNat (c : Char) : isCharacter c.toNat = true := by
  have valid : c.toNat < 0xD800 ∨ 0xDFFF < c.toNat ∧ c.toNat < 0x110000 := c.valid
  simpa [isCharacter] using valid

/-- A number that leads to a character and to an index inserts the character there. -/
theorem decodeAll_digits {code place delta index : Nat} {output : List Char} {c : Char}
    (later : code ≤ c.toNat) (inside : index ≤ output.length)
    (counted : place + delta = (c.toNat - code) * (output.length + 1) + index) (bias : Nat)
    (rest : List Char) :
    decodeAll code place bias output (digits bias (delta + 1) 36 delta ++ rest) =
      decodeAll c.toNat (index + 1) (adapt delta (output.length + 1) (place == 0))
        (output.insertIdx index c) rest := by
  have read := readNumber_digits bias (Nat.lt_succ_self delta) 36 1 place rest
  rw [Nat.mul_one, counted] at read
  generalize digits bias (delta + 1) 36 delta ++ rest = numbers at read
  cases numbers with
  | nil => cases read
  | cons d numbers =>
    have shorter := length_readNumber read
    have code_eq : ((c.toNat - code) * (output.length + 1) + index) / (output.length + 1) =
        c.toNat - code := by
      rw [Nat.mul_comm, Nat.mul_add_div (by omega), Nat.div_eq_of_lt (by omega), Nat.add_zero]
    have index_eq : ((c.toNat - code) * (output.length + 1) + index) % (output.length + 1) =
        index := by
      rw [Nat.mul_comm, Nat.mul_add_mod, Nat.mod_eq_of_lt (by omega)]
    have delta_eq : (c.toNat - code) * (output.length + 1) + index - place = delta := by
      omega
    have next_eq : code + (c.toNat - code) = c.toNat := by omega
    rw [decodeAll, List.length_cons, decodeFrom, read]
    simp only [code_eq, index_eq, delta_eq, next_eq, isCharacter_toNat, ↓reduceIte,
      Char.ofNat_toNat]
    exact decodeFrom_steps (Nat.le_of_lt_succ shorter) (Nat.le_refl _) _ _ _ _

/-! ## Writing -/

/-- The text as far as it is encoded, while the characters with one code point are: a part of the
text is passed, and the other part is ahead. -/
def built (code : Nat) (passed ahead : List Char) : List Char :=
  passed.filter (·.toNat ≤ code) ++ ahead.filter (·.toNat < code)

theorem insertIdx_middle (front back : List Char) (c : Char) :
    (front ++ back).insertIdx front.length c = front ++ c :: back := by
  induction front with
  | nil => rfl
  | cons d front ih => exact congrArg (d :: ·) ih

/-- The reader follows the writer. It begins with the characters inside ASCII, and reading what is
written brings it to a code point and a place from which there is as far to go as the writer has
counted. -/
structure Follows (basic : List Char) (code : Nat) (passed ahead : List Char)
    (progress : Progress) : Prop where
  done : progress.done = (built code passed ahead).length
  least : basic.length ≤ progress.done
  reads : ∃ reached place, reached ≤ code ∧ (place = 0 ↔ progress.done = basic.length) ∧
    place + progress.delta =
      (code - reached) * (progress.done + 1) + (passed.filter (·.toNat ≤ code)).length ∧
    ∀ rest, decodeAll initialCode 0 initialBias basic (progress.output ++ rest) =
      decodeAll reached place progress.bias (built code passed ahead) rest

namespace Follows

variable {basic text : List Char} {code : Nat} {progress : Progress}

theorem pass {passed ahead : List Char} {c : Char}
    (follows : Follows basic code passed (c :: ahead) progress) :
    Follows basic code (passed ++ [c]) ahead (pass basic.length code progress c) := by
  obtain ⟨done, least, reached, place, notBeyond, first, counted, reads⟩ := follows
  unfold Punycode.pass
  by_cases smaller : c.toNat < code
  · have within : c.toNat ≤ code := Nat.le_of_lt smaller
    have same : built code (passed ++ [c]) ahead = built code passed (c :: ahead) := by
      simp [built, smaller, within]
    rw [if_pos smaller]
    refine ⟨same ▸ done, least, reached, place, notBeyond, first, ?_, same ▸ reads⟩
    simp only [List.filter_append, List.length_append, List.filter_cons, within, decide_true,
      ↓reduceIte, List.filter_nil, List.length_singleton]
    omega
  rw [if_neg smaller]
  by_cases equal : c.toNat = code
  · subst equal
    have before : built c.toNat passed (c :: ahead) =
        passed.filter (·.toNat ≤ c.toNat) ++ ahead.filter (·.toNat < c.toNat) := by
      simp [built]
    have after : built c.toNat (passed ++ [c]) ahead =
        (built c.toNat passed (c :: ahead)).insertIdx
          (passed.filter (·.toNat ≤ c.toNat)).length c := by
      rw [before, insertIdx_middle]
      simp [built]
    have inside : (passed.filter (·.toNat ≤ c.toNat)).length ≤
        (built c.toNat passed (c :: ahead)).length := by
      rw [before, List.length_append]
      exact Nat.le_add_right _ _
    rw [if_pos (by simp)]
    refine ⟨?_, Nat.le_succ_of_le least, c.toNat,
      (passed.filter (·.toNat ≤ c.toNat)).length + 1, Nat.le_refl _, ?_, ?_, fun rest => ?_⟩
    · rw [after, List.length_insertIdx_of_le_length inside, done]
    · dsimp only
      omega
    · simp
    · have firstly : (progress.done == basic.length) = (place == 0) := by
        rw [Bool.eq_iff_iff, beq_iff_eq, beq_iff_eq, first]
      rw [List.append_assoc, reads, after, firstly, done]
      exact decodeAll_digits notBeyond inside (done ▸ counted) _ rest
  · have beyond : ¬ c.toNat ≤ code := by omega
    have same : built code (passed ++ [c]) ahead = built code passed (c :: ahead) := by
      simp [built, smaller, beyond]
    rw [if_neg (by simpa using equal)]
    refine ⟨same ▸ done, least, reached, place, notBeyond, first, ?_, same ▸ reads⟩
    simp only [List.filter_append, List.filter_cons, beyond, decide_false, Bool.false_eq_true,
      ↓reduceIte, List.filter_nil, List.append_nil]
    exact counted

theorem foldl {passed ahead : List Char} (follows : Follows basic code passed ahead progress) :
    Follows basic code (passed ++ ahead) [] (ahead.foldl (Punycode.pass basic.length code)
      progress) := by
  induction ahead generalizing passed progress with
  | nil => rwa [List.append_nil]
  | cons c ahead ih =>
    rw [List.foldl_cons, List.append_cons]
    exact ih follows.pass

/-- Between two code points of the text there is nothing to write, only to count. -/
theorem skip {next : Nat} (later : next ≤ code)
    (absent : ∀ c ∈ text, next ≤ c.toNat → code ≤ c.toNat)
    (follows : Follows basic next [] text progress) :
    Follows basic code [] text
      { progress with delta := progress.delta + (code - next) * (progress.done + 1) } := by
  obtain ⟨done, least, reached, place, notBeyond, first, counted, reads⟩ := follows
  have same : built code [] text = built next [] text := by
    refine List.filter_congr fun c inside => decide_eq_decide.mpr ⟨fun before => ?_, fun before => ?_⟩
    · exact Nat.lt_of_not_le fun beyond => Nat.not_le_of_lt before (absent c inside beyond)
    · exact Nat.lt_of_lt_of_le before later
  refine ⟨same ▸ done, least, reached, place, Nat.le_trans notBeyond later, first, ?_,
    same ▸ reads⟩
  have distance : code - reached = (code - next) + (next - reached) := by omega
  simp only [List.filter_nil, List.length_nil, Nat.add_zero] at counted ⊢
  rw [distance, Nat.add_mul]
  omega

/-- The characters with one code point are written, so those up to the next are. -/
theorem next (follows : Follows basic code text [] progress) :
    Follows basic (code + 1) [] text { progress with delta := progress.delta + 1 } := by
  obtain ⟨done, least, reached, place, notBeyond, first, counted, reads⟩ := follows
  have same : built (code + 1) [] text = built code text [] := by
    simp only [built, Nat.lt_succ_iff, List.filter_nil, List.append_nil, List.nil_append]
  have all : progress.done = (text.filter (·.toNat ≤ code)).length := by
    simpa [built] using done
  refine ⟨same ▸ done, least, reached, place, Nat.le_succ_of_le notBeyond, first, ?_, same ▸ reads⟩
  have distance : code + 1 - reached = (code - reached) + 1 := by omega
  simp only [List.filter_nil, List.length_nil, Nat.add_zero]
  rw [distance, Nat.add_mul, Nat.one_mul]
  omega

/-- When all code points of the text are written, the reader has all of it. -/
theorem encodeFrom {codes : List Nat} {next : Nat} (increasing : codes.Pairwise (· < ·))
    (covered : ∀ c ∈ text, next ≤ c.toNat → c.toNat ∈ codes) (later : ∀ code ∈ codes, next ≤ code)
    (follows : Follows basic next [] text progress) (rest : List Char) :
    ∃ reached place bias, decodeAll initialCode 0 initialBias basic
      ((Punycode.encodeFrom text basic.length codes next progress).output ++ rest) =
        decodeAll reached place bias text rest := by
  induction codes generalizing next progress with
  | nil =>
    obtain ⟨-, -, reached, place, -, -, -, reads⟩ := follows
    have all : built next [] text = text := by
      refine List.filter_eq_self.mpr fun c inside => decide_eq_true ?_
      exact Nat.lt_of_not_le fun beyond => List.not_mem_nil (covered c inside beyond)
    exact ⟨reached, place, progress.bias, all ▸ reads rest⟩
  | cons code codes ih =>
    obtain ⟨least, increasing⟩ := List.pairwise_cons.mp increasing
    have ahead : ∀ c ∈ text, next ≤ c.toNat → code ≤ c.toNat := by
      intro c inside beyond
      rcases List.mem_cons.mp (covered c inside beyond) with same | further
      · exact Nat.le_of_eq same.symm
      · exact Nat.le_of_lt (least _ further)
    have written := (skip (later code List.mem_cons_self) ahead follows).foldl.next
    refine ih increasing (fun c inside beyond => ?_) (fun other further => least other further)
      written
    have from_next := Nat.le_trans (later code List.mem_cons_self) (Nat.le_of_lt beyond)
    rcases List.mem_cons.mp (covered c inside from_next) with same | further
    · omega
    · exact further

end Follows

/-! ## Whole texts -/

/-- The code points outside ASCII, in increasing order. -/
def codes (text : List Char) : List Nat :=
  ((text.filter (initialCode ≤ ·.toNat)).map Char.toNat).eraseDups.mergeSort (· ≤ ·)

theorem mem_codes {text : List Char} {code : Nat} :
    code ∈ codes text ↔ ∃ c ∈ text, initialCode ≤ c.toNat ∧ c.toNat = code := by
  simp [codes, List.mem_mergeSort, and_assoc]

theorem nodup_eraseDups (items : List Nat) : items.eraseDups.Nodup := by
  match items with
  | [] => exact List.nodup_nil
  | item :: items =>
    rw [List.eraseDups_cons, List.nodup_cons, List.mem_eraseDups, List.mem_filter]
    refine ⟨fun ⟨_, other⟩ => by simp at other, nodup_eraseDups _⟩
termination_by items.length
decreasing_by exact Nat.lt_succ_of_le (List.length_filter_le _ _)

theorem pairwise_codes (text : List Char) : (codes text).Pairwise (· < ·) := by
  have sorted : (codes text).Pairwise fun a b => decide (a ≤ b) = true :=
    List.pairwise_mergeSort (fun a b c => by simpa using Nat.le_trans)
      (fun a b => by simpa using Nat.le_total a b) _
  have distinct : (codes text).Nodup :=
    (List.mergeSort_perm _ _).nodup_iff.mpr (nodup_eraseDups _)
  exact sorted.imp₂ (fun a b ordered different =>
    Nat.lt_of_le_of_ne (of_decide_eq_true ordered) different) distinct

/-- What a text is encoded as, besides its characters inside ASCII. -/
def numbers (text : List Char) : List Char :=
  (encodeFrom text (text.filter (·.toNat < initialCode)).length (codes text) initialCode
    ⟨[], 0, initialBias, (text.filter (·.toNat < initialCode)).length⟩).output

theorem decodeAll_numbers (text : List Char) :
    decodeAll initialCode 0 initialBias (text.filter (·.toNat < initialCode)) (numbers text) =
      some text := by
  have begins : Follows (text.filter (·.toNat < initialCode)) initialCode [] text
      ⟨[], 0, initialBias, (text.filter (·.toNat < initialCode)).length⟩ :=
    ⟨rfl, Nat.le_refl _, initialCode, 0, Nat.le_refl _, by simp, by simp, fun _ => rfl⟩
  obtain ⟨reached, place, bias, reads⟩ := begins.encodeFrom (pairwise_codes text)
    (fun c inside beyond => mem_codes.mpr ⟨c, inside, beyond, rfl⟩)
    (fun code member => by
      obtain ⟨c, -, beyond, rfl⟩ := mem_codes.mp member
      exact beyond) []
  rw [List.append_nil] at reads
  exact reads

theorem encode_eq (text : List Char) :
    encode text = text.filter (·.toNat < initialCode) ++
      (if (text.filter (·.toNat < initialCode)).isEmpty then [] else ['-']) ++ numbers text :=
  rfl

/-! ## Characters -/

theorem mem_digits {bias steps place value : Nat} {c : Char}
    (member : c ∈ digits bias steps place value) : ∃ n < 36, c = digit n := by
  induction steps generalizing place value with
  | zero => cases member
  | succ steps ih =>
    obtain ⟨least, most⟩ := threshold_bounds place bias
    rw [digits] at member
    split at member
    · obtain rfl := List.mem_singleton.mp member
      exact ⟨value, by omega, rfl⟩
    · rcases List.mem_cons.mp member with rfl | further
      · have := Nat.mod_lt (value - threshold place bias)
          (show 0 < 36 - threshold place bias by omega)
        exact ⟨_, by omega, rfl⟩
      · exact ih further

theorem mem_output_foldl {basic code : Nat} {text : List Char} {progress : Progress} {c : Char}
    (member : c ∈ (text.foldl (pass basic code) progress).output) :
    c ∈ progress.output ∨ ∃ n < 36, c = digit n := by
  induction text generalizing progress with
  | nil => exact .inl member
  | cons d text ih =>
    rcases ih member with before | isDigit
    · unfold pass at before
      split at before
      · exact .inl before
      · split at before
        · exact (List.mem_append.mp before).imp_right mem_digits
        · exact .inl before
    · exact .inr isDigit

theorem mem_output_encodeFrom {text : List Char} {basic next : Nat} {codes : List Nat}
    {progress : Progress} {c : Char}
    (member : c ∈ (encodeFrom text basic codes next progress).output) :
    c ∈ progress.output ∨ ∃ n < 36, c = digit n := by
  induction codes generalizing next progress with
  | nil => exact .inl member
  | cons code codes ih =>
    rcases ih member with before | isDigit
    · let counted := progress.delta + (code - next) * (progress.done + 1)
      exact @mem_output_foldl basic code text { progress with delta := counted } c before
    · exact .inr isDigit

theorem mem_numbers {text : List Char} {c : Char} (member : c ∈ numbers text) :
    ∃ n < 36, c = digit n := by
  rcases mem_output_encodeFrom member with none | isDigit
  · cases none
  · exact isDigit

theorem mem_encode {text : List Char} {c : Char} (member : c ∈ encode text) :
    c ∈ text ∧ c.toNat < 0x80 ∨ c = '-' ∨ ∃ n < 36, c = digit n := by
  rw [encode_eq, List.mem_append, List.mem_append] at member
  rcases member with (plain | hyphen) | number
  · obtain ⟨inside, small⟩ := List.mem_filter.mp plain
    exact .inl ⟨inside, of_decide_eq_true small⟩
  · split at hyphen
    · cases hyphen
    · exact .inr (.inl (List.mem_singleton.mp hyphen))
  · exact .inr (.inr (mem_numbers number))

theorem hyphen_not_mem_numbers (text : List Char) : '-' ∉ numbers text := by
  intro member
  obtain ⟨n, small, same⟩ := mem_numbers member
  have all : ∀ n < 36, '-' ≠ digit n := by decide
  exact all n small same

theorem toNat_ofNat_of_isCharacter {code : Nat} (valid : isCharacter code = true) :
    (Char.ofNat code).toNat = code := by
  refine Text.toNat_ofNat_of_valid ?_
  simpa [isCharacter, Nat.isValidChar] using valid

theorem mem_decodeFrom {steps code place bias : Nat} {output numbers text : List Char} {c : Char}
    (outside : 0x80 ≤ code) (read : decodeFrom steps code place bias output numbers = some text)
    (member : c ∈ text) : c ∈ output ∨ 0x80 ≤ c.toNat := by
  induction steps generalizing code place bias output numbers with
  | zero =>
    cases numbers with
    | nil => exact .inl (Option.some.inj read ▸ member)
    | cons d numbers => cases read
  | succ steps ih =>
    cases numbers with
    | nil => exact .inl (Option.some.inj read ▸ member)
    | cons d numbers =>
      rw [decodeFrom] at read
      cases number : readNumber bias 36 1 place (d :: numbers) with
      | none => simp [number] at read
      | some found =>
        obtain ⟨sum, rest⟩ := found
        simp only [number] at read
        split at read
        next valid =>
          have further : 0x80 ≤ code + sum / (output.length + 1) := Nat.le_add_right_of_le outside
          rcases ih further read with before | beyond
          · rcases List.eq_or_mem_of_mem_insertIdx before with same | earlier
            · exact .inr (by rw [same, toNat_ofNat_of_isCharacter valid]; exact further)
            · exact .inl earlier
          · exact .inr beyond
        next => cases read

/-- Decoding brings in nothing inside ASCII that was not there. -/
theorem mem_decode? {encoded text : List Char} {c : Char} (read : decode? encoded = some text)
    (member : c ∈ text) : c ∈ encoded ∨ 0x80 ≤ c.toNat := by
  unfold decode? at read
  dsimp only at read
  split at read
  · rcases mem_decodeFrom (Nat.le_refl _) read member with none | beyond
    · cases none
    · exact .inr beyond
  · exact (mem_decodeFrom (Nat.le_refl _) read member).imp_left List.mem_of_mem_take

/-! ## There and back -/

theorem decode?_of_numbers {basic numbers : List Char} (single : '-' ∉ numbers) :
    decode? (basic ++ (if basic.isEmpty then [] else ['-']) ++ numbers) =
      decodeAll initialCode 0 initialBias basic numbers := by
  cases basic with
  | nil =>
    rw [List.isEmpty_nil, if_pos rfl, List.append_nil, List.nil_append, decode?,
      Text.afterLast_of_not_mem single]
    simp [decodeAll]
  | cons d basic =>
    rw [List.isEmpty_cons, if_neg Bool.false_ne_true, List.append_assoc, List.singleton_append,
      decode?, Text.afterLast_append single, Text.take_before_mark]
    rfl

/-- What a text is encoded as stands for the text. -/
theorem decode?_encode (text : List Char) : decode? (encode text) = some text := by
  rw [encode_eq, decode?_of_numbers (hyphen_not_mem_numbers text), decodeAll_numbers]

end Scratchpad.Url.Punycode
