import Scratchpad.Text.Lines
import Scratchpad.Text.Utf8

/-!
# Records of lines

Lines that hold no separator come back as the records of what they make together. In UTF-8 the byte
of a line feed stands for a line feed only, so this holds of bytes as it does of characters. Without
their ends the lines of a text come back one by one, whichever end each of them has.
-/

set_option autoImplicit false

namespace Scratchpad.Text

variable {α : Type} [BEq α] [LawfulBEq α] {separator : α}

theorem records_cons_line {line : List α} (free : separator ∉ line) (rest : List α) :
    records separator (line ++ separator :: rest) =
      (line ++ [separator]) :: records separator rest := by
  induction line with
  | nil => simp [records]
  | cons a line ih =>
    obtain ⟨apart, later⟩ := not_or.mp (mt List.mem_cons.mpr free)
    have other : (a == separator) = false := beq_false_of_ne (Ne.symm apart)
    simp [records, other, ih later]

theorem records_line {line : List α} (free : separator ∉ line) (filled : line ≠ []) :
    records separator line = [line] := by
  induction line with
  | nil => exact absurd rfl filled
  | cons a line ih =>
    obtain ⟨apart, later⟩ := not_or.mp (mt List.mem_cons.mpr free)
    have other : (a == separator) = false := beq_false_of_ne (Ne.symm apart)
    cases line with
    | nil => simp [records, other]
    | cons b line =>
      rw [records, other, if_neg Bool.false_ne_true, ih later (List.cons_ne_nil b line)]

omit [LawfulBEq α] in
theorem mem_of_mem_records {text record : List α} (member : record ∈ records separator text) {a : α}
    (inside : a ∈ record) : a ∈ text := by
  induction text generalizing record with
  | nil => cases member
  | cons b text ih =>
    unfold records at member
    split at member
    · rcases List.mem_cons.mp member with rfl | later
      · rw [List.mem_singleton.mp inside]
        exact List.mem_cons_self
      · exact List.mem_cons_of_mem b (ih later inside)
    · split at member
      · rw [List.mem_singleton.mp member] at inside
        rw [List.mem_singleton.mp inside]
        exact List.mem_cons_self
      · rename_i first others found
        rcases List.mem_cons.mp member with rfl | later
        · rcases List.mem_cons.mp inside with rfl | within
          · exact List.mem_cons_self
          · exact List.mem_cons_of_mem b (ih (found ▸ List.mem_cons_self) within)
        · exact List.mem_cons_of_mem b (ih (found ▸ List.mem_cons_of_mem first later) inside)

theorem records_flatMap_line {lines : List (List α)} (free : ∀ line ∈ lines, separator ∉ line) :
    records separator (lines.flatMap (· ++ [separator])) = lines.map (· ++ [separator]) := by
  induction lines with
  | nil => rfl
  | cons line lines ih =>
    obtain ⟨first, others⟩ := List.forall_mem_cons.mp free
    rw [List.flatMap_cons, List.append_assoc, List.singleton_append, records_cons_line first,
      ih others, List.map_cons]

/-! ## Lines and their ends -/

/-- The texts in which lines can be written: each line has a line feed after it, or a carriage
return and a line feed, and the last one may have neither. -/
inductive LaidOut : List (List Char) → List Char → Prop where
  | nil : LaidOut [] []
  | unended {line} : LaidOut [line] line
  | lineFeed {line lines text} : LaidOut lines text →
      LaidOut (line :: lines) (line ++ '\n' :: text)
  | carriageReturn {line lines text} : LaidOut lines text →
      LaidOut (line :: lines) (line ++ '\r' :: '\n' :: text)

theorem dropFinal_of_ne {final : α} {record : List α} (other : record.getLast? ≠ some final) :
    dropFinal final record = record := by
  simp [dropFinal, other]

theorem dropFinal_append (final : α) (record : List α) :
    dropFinal final (record ++ [final]) = record := by
  simp [dropFinal]

omit [LawfulBEq α] in
theorem dropFinal_subset (final : α) (record : List α) : dropFinal final record ⊆ record := by
  unfold dropFinal
  split
  · exact List.dropLast_subset record
  · exact List.Subset.refl record

theorem lines_append_lineFeed {line : List Char} (free : '\n' ∉ line) (text : List Char) :
    lines (line ++ '\n' :: text) = dropFinal '\r' line :: lines text := by
  rw [lines, records_cons_line free, List.map_cons]
  simp [lineText, lines]

theorem lines_unended {line : List Char} (free : '\n' ∉ line) (filled : line ≠ []) :
    lines line = [line] := by
  have other : line.getLast? ≠ some '\n' := fun last => free (List.mem_of_getLast? last)
  rw [lines, records_line free filled, List.map_singleton]
  simp [lineText, other]

theorem mem_of_mem_lines {text line : List Char} (member : line ∈ lines text) {c : Char}
    (inside : c ∈ line) : c ∈ text := by
  obtain ⟨record, present, rfl⟩ := List.mem_map.mp member
  refine mem_of_mem_records present ?_
  unfold lineText at inside
  split at inside
  · exact List.dropLast_subset record (dropFinal_subset '\r' _ inside)
  · exact inside

/-- The first line comes back as it is, and the others from the rest of the text. -/
theorem LaidOut.lines_cons {line text : List Char} {others : List (List Char)}
    (laidOut : LaidOut (line :: others) text) (free : '\n' ∉ line)
    (uncut : line.getLast? ≠ some '\r') (filled : others ≠ [] ∨ line ≠ []) :
    ∃ rest, LaidOut others rest ∧ lines text = line :: lines rest := by
  cases laidOut with
  | unended =>
    have own : line ≠ [] := by simpa using filled
    exact ⟨[], .nil, lines_unended free own⟩
  | @lineFeed _ _ rest later =>
    refine ⟨rest, later, ?_⟩
    rw [lines_append_lineFeed free, dropFinal_of_ne uncut]
  | @carriageReturn _ _ rest later =>
    refine ⟨rest, later, ?_⟩
    have clean : '\n' ∉ line ++ ['\r'] := by simp [free]
    have whole : line ++ '\r' :: '\n' :: rest = (line ++ ['\r']) ++ '\n' :: rest := by simp
    rw [whole, lines_append_lineFeed clean, dropFinal_append]

theorem LaidOut.lines_append {earlier others : List (List Char)} {text : List Char}
    (laidOut : LaidOut (earlier ++ others) text) (free : ∀ line ∈ earlier, '\n' ∉ line)
    (uncut : ∀ line ∈ earlier, line.getLast? ≠ some '\r') (more : others ≠ []) :
    ∃ rest, LaidOut others rest ∧ lines text = earlier ++ lines rest := by
  induction earlier generalizing text with
  | nil => exact ⟨text, laidOut, rfl⟩
  | cons line earlier ih =>
    obtain ⟨freeHere, freeLater⟩ := List.forall_mem_cons.mp free
    obtain ⟨uncutHere, uncutLater⟩ := List.forall_mem_cons.mp uncut
    have follows : earlier ++ others ≠ [] := List.append_ne_nil_of_right_ne_nil earlier more
    obtain ⟨between, laid, first⟩ := laidOut.lines_cons freeHere uncutHere (.inl follows)
    obtain ⟨rest, further, second⟩ := ih laid freeLater uncutLater
    exact ⟨rest, further, by rw [first, second, List.cons_append]⟩

/-- What holds of the characters of lines, and of those that end lines, holds of a whole text. -/
theorem LaidOut.forall_mem {lines : List (List Char)} {text : List Char} {holds : Char → Prop}
    (laidOut : LaidOut lines text) (inside : ∀ line ∈ lines, ∀ c ∈ line, holds c)
    (feed : holds '\n') (back : holds '\r') : ∀ c ∈ text, holds c := by
  induction laidOut with
  | nil => simp
  | unended => exact inside _ List.mem_cons_self
  | lineFeed _ ih =>
    obtain ⟨here, later⟩ := List.forall_mem_cons.mp inside
    exact List.forall_mem_append.mpr ⟨here, List.forall_mem_cons.mpr ⟨feed, ih later⟩⟩
  | carriageReturn _ ih =>
    obtain ⟨here, later⟩ := List.forall_mem_cons.mp inside
    have ended := List.forall_mem_cons.mpr ⟨feed, ih later⟩
    exact List.forall_mem_append.mpr ⟨here, List.forall_mem_cons.mpr ⟨back, ended⟩⟩

namespace Utf8

theorem encode_append (cs others : List Char) :
    encode (cs ++ others) = encode cs ++ encode others :=
  List.flatMap_append

theorem encode_lineFeed : encode ['\n'] = [0x0A] := by
  decide

theorem eq_lineFeed_of_mem {c : Char} (inside : 0x0A ∈ String.utf8EncodeChar c) : c = '\n' := by
  have code : 10 ∈ (String.utf8EncodeChar c).map UInt8.toNat := List.mem_map_of_mem inside
  have ascii : c.val.toNat = 10 := by
    dsimp only [String.utf8EncodeChar] at code
    generalize c.val.toNat = n at code ⊢
    -- A sequence of more than one byte has no byte below 128.
    repeat' split at code
    all_goals
      simp only [List.map_cons, List.map_nil, List.mem_cons, List.not_mem_nil, or_false,
        UInt8.toNat_ofNat'] at code
      omega
  exact Char.ext (UInt32.toNat_inj.mp ascii)

theorem lineFeed_not_mem_encode {cs : List Char} (free : '\n' ∉ cs) : 0x0A ∉ encode cs := by
  intro inside
  obtain ⟨c, member, within⟩ := List.mem_flatMap.mp inside
  rw [eq_lineFeed_of_mem within] at member
  exact free member

end Utf8

end Scratchpad.Text
