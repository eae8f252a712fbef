import Scratchpad.Evaluator.Process
import Scratchpad.Proofs.Text.Blank
import Scratchpad.Proofs.Text.Lines
import Scratchpad.Proofs.Text.Split
import Scratchpad.Proofs.Text.Utf8

/-!
# What processes say

A process that succeeds says its value on the last line that is not blank, and what it printed on
the lines before it, whichever ends the lines have. A process that fails says why on its error
stream, or else its end does, and either way something is said.
-/

set_option autoImplicit false

namespace Scratchpad.Evaluator

open Text (LaidOut Utf8.encode Utf8.lossy)

/-! ## Values -/

/-- A text with a value on a line of its own, lines before it and blank lines after it. -/
structure Prints (earlier : List (List Char)) (value : List Char) (trailing : List (List Char))
    (text : List Char) : Prop where
  laidOut : LaidOut (earlier ++ value :: trailing) text
  /-- None of the lines is more than one line. -/
  single : ∀ line ∈ earlier ++ [value], '\n' ∉ line
  /-- A carriage return at the end of a line would be a part of its end. -/
  uncut : ∀ line ∈ earlier ++ [value], line.getLast? ≠ some '\r'
  filled : isBlankLine value = false
  blank : ∀ line ∈ trailing, isBlankLine line = true

theorem isBlankLine_iff {line : List Char} :
    isBlankLine line = true ↔ ∀ c ∈ line, Text.isBlank c = true :=
  List.all_eq_true

theorem join_eq_intercalate (separator : List Char) (parts : List (List Char)) :
    Text.join separator parts = separator.intercalate parts := by
  fun_induction Text.join separator parts with
  | case1 => rfl
  | case2 part => simp [List.intercalate]
  | case3 part parts more ih =>
    obtain ⟨next, others, rfl⟩ := List.exists_cons_of_ne_nil more
    rw [ih]
    simp [List.intercalate]

/-- The lines of a printed text, apart from blank ones at its end. -/
theorem Prints.lines_eq {earlier trailing : List (List Char)} {value text : List Char}
    (prints : Prints earlier value trailing text) :
    ∃ rest, Text.lines text = earlier ++ value :: rest ∧
      ∀ line ∈ rest, isBlankLine line = true := by
  obtain ⟨laidOut, single, uncut, filled, blank⟩ := prints
  obtain ⟨singleEarlier, singleValue⟩ := List.forall_mem_append.mp single
  obtain ⟨uncutEarlier, uncutValue⟩ := List.forall_mem_append.mp uncut
  obtain ⟨middle, laidMiddle, first⟩ :=
    laidOut.lines_append singleEarlier uncutEarlier (List.cons_ne_nil value trailing)
  have nonempty : value ≠ [] := by
    intro empty
    rw [empty] at filled
    cases filled
  obtain ⟨rest, laidRest, second⟩ := laidMiddle.lines_cons (singleValue value List.mem_cons_self)
    (uncutValue value List.mem_cons_self) (.inr nonempty)
  have clear : ∀ c ∈ rest, Text.isBlank c = true :=
    laidRest.forall_mem (fun line member => isBlankLine_iff.mp (blank line member)) rfl rfl
  refine ⟨Text.lines rest, by rw [first, second], fun line member => ?_⟩
  exact isBlankLine_iff.mpr fun c inside => clear c (Text.mem_of_mem_lines member inside)

/-- Of lines that are read from the last one back, blank ones are passed over. -/
theorem ofReversedLines_append {blanks earlier : List (List Char)} {value : List Char}
    (blank : ∀ line ∈ blanks, isBlankLine line = true) (filled : isBlankLine value = false) :
    ofReversedLines (earlier ++ value :: blanks).reverse =
      ⟨.ok (String.ofList value),
        if earlier = [] then none else some (String.ofList (['\n'].intercalate earlier))⟩ := by
  have kept : (earlier ++ value :: blanks).reverse.dropWhile isBlankLine =
      value :: earlier.reverse := by
    have turned : (earlier ++ value :: blanks).reverse =
        blanks.reverse ++ value :: earlier.reverse := by simp
    rw [turned]
    refine Text.dropWhile_append_of_head (fun line member => ?_) fun line begins => ?_
    · exact blank line (List.mem_reverse.mp member)
    · cases begins
      exact filled
  rw [ofReversedLines, kept]
  cases backwards : earlier.reverse with
  | nil =>
    have none : earlier = [] := List.reverse_eq_nil_iff.mp backwards
    rw [if_pos none]
    rfl
  | cons line lines =>
    have some : earlier ≠ [] := by
      intro none
      rw [none] at backwards
      cases backwards
    dsimp only
    rw [if_neg some, ← backwards, List.reverse_reverse, join_eq_intercalate]

theorem ofReversedLines_blank {lines : List (List Char)}
    (blank : ∀ line ∈ lines, isBlankLine line = true) : ofReversedLines lines = .ok "" := by
  have none : (lines ++ []).dropWhile isBlankLine = [] :=
    Text.dropWhile_append_of_head blank (by simp)
  rw [List.append_nil] at none
  rw [ofReversedLines, none]

/-- The value of a run that succeeds is its last line that is not blank, as it was written, and what
it printed are the lines before it. If all lines are blank there is neither. The error stream has no
say in this. -/
theorem last_line_is_value (stderr : List UInt8) :
    (∀ {earlier trailing : List (List Char)} {value text : List Char},
      Prints earlier value trailing text →
        Output.evaluation ⟨.exit 0, Utf8.encode text, stderr⟩ =
          ⟨.ok (String.ofList value),
            if earlier = [] then none else some (String.ofList (['\n'].intercalate earlier))⟩) ∧
      ∀ {stdout : List UInt8},
        (∀ line ∈ Text.lines (Utf8.lossy stdout), isBlankLine line = true) →
          Output.evaluation ⟨.exit 0, stdout, stderr⟩ = ⟨.ok "", none⟩ := by
  constructor
  · intro earlier trailing value text prints
    obtain ⟨rest, lines, blank⟩ := prints.lines_eq
    change ofStdout (Utf8.encode text) = _
    rw [ofStdout, Text.Utf8.lossy_encode, lines]
    exact ofReversedLines_append blank prints.filled
  · intro stdout blank
    change ofReversedLines (Text.lines (Utf8.lossy stdout)).reverse = _
    exact ofReversedLines_blank fun line member => blank line (List.mem_reverse.mp member)

/-- Line ends of both kinds, blanks around the value, blank lines on both sides of it, and bytes
that are no text. -/
theorem last_line_is_value_among_blanks :
    let earlier := ["λ".toList, [], " printed ".toList, "\t".toList]
    let text := "λ\r\n\n printed \n\t\r\n 42 \n\n \r".toList
    Prints earlier " 42 ".toList [[], " \r".toList] text ∧
      Output.evaluation ⟨.exit 0, Utf8.encode text, [0xFF]⟩ =
        ⟨.ok " 42 ", some "λ\n\n printed \n\t"⟩ ∧
      Output.evaluation ⟨.exit 0, [0x20, 0x0D, 0x0A, 0x0D], [0xFF]⟩ = ⟨.ok "", none⟩ := by
  intro earlier text
  have prints : Prints earlier " 42 ".toList [[], " \r".toList] text := by
    refine ⟨?_, by decide, by decide, by decide, by decide⟩
    exact .carriageReturn (.lineFeed (.lineFeed (.carriageReturn (.lineFeed (.lineFeed .unended)))))
  exact ⟨prints, (last_line_is_value _).1 prints, (last_line_is_value _).2 (by decide)⟩

/-! ## Reasons -/

/-- A run fails unless its process exits with zero. -/
def Fails (outcome : Except String Output) : Prop :=
  ∀ output, outcome = .ok output → output.ending ≠ .exit 0

/-- The same outcome, had the process written something else. -/
def printing (stdout : List UInt8) (outcome : Except String Output) : Except String Output :=
  outcome.map fun output => { output with stdout }

/-- What is said of a run that fails. -/
structure Explains (message : String) (outcome : Except String Output) : Prop where
  spoken : Text.allBlank message = false
  prevented : ∀ reason, outcome = .error reason → message = "Failed to run evaluator: " ++ reason
  /-- The error stream without the blanks around it, and the end itself if nothing is left. -/
  ended : ∀ output, outcome = .ok output → ∃ kept, Text.Trims (Utf8.lossy output.stderr) kept ∧
    message = if kept = [] then "Evaluator exited with " ++ output.ending.message
      else String.ofList kept

theorem failureMessage_eq {stderr : List UInt8} {kept : List Char}
    (trims : Text.Trims (Utf8.lossy stderr) kept) (ending : Ending) :
    failureMessage ending stderr =
      if kept = [] then "Evaluator exited with " ++ ending.message else String.ofList kept := by
  rw [failureMessage, ← trims.eq_trimChars]
  cases kept <;> rfl

theorem allBlank_append_of_not {first : String} (spoken : Text.allBlank first = false)
    (second : String) : Text.allBlank (first ++ second) = false := by
  rw [Text.allBlank, String.toList_append, List.all_append, ← Text.allBlank, spoken,
    Bool.false_and]

theorem allBlank_failureMessage (ending : Ending) (stderr : List UInt8) :
    Text.allBlank (failureMessage ending stderr) = false := by
  have trims := Text.trims_trimChars (Utf8.lossy stderr)
  rw [failureMessage_eq trims]
  split
  · exact allBlank_append_of_not (by decide) _
  · rename_i filled
    obtain ⟨c, member, mark⟩ := trims.exists_not_isBlank filled
    rw [Text.allBlank, String.toList_ofList, List.all_eq_false]
    exact ⟨c, member, by simp [mark]⟩

theorem evaluation_of_failed {output : Output} (failed : output.ending ≠ .exit 0) :
    output.evaluation = .err (failureMessage output.ending output.stderr) := by
  have unsuccessful : output.ending.isSuccess = false := by simpa [Ending.isSuccess] using failed
  rw [Output.evaluation, unsuccessful, if_neg Bool.false_ne_true]

/-- A failure has one explanation, whatever the process has written before it. -/
theorem Fails.explained {outcome : Except String Output} (fails : Fails outcome) :
    ∃ message, Explains message outcome ∧
      ∀ stdout, ofRun (printing stdout outcome) = .err message := by
  cases outcome with
  | error reason =>
    refine ⟨_, ⟨allBlank_append_of_not (by decide) reason, ?_, ?_⟩, fun stdout => rfl⟩
    · intro other same
      cases same
      rfl
    · intro output impossible
      cases impossible
  | ok output =>
    have failed := fails output rfl
    have trims := Text.trims_trimChars (Utf8.lossy output.stderr)
    refine ⟨failureMessage output.ending output.stderr,
      ⟨allBlank_failureMessage _ _, ?_, ?_⟩, fun stdout => evaluation_of_failed failed⟩
    · intro reason impossible
      cases impossible
    · intro other same
      cases same
      exact ⟨_, trims, failureMessage_eq trims _⟩

end Scratchpad.Evaluator
