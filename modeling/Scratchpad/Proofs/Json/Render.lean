import Scratchpad.Json.Value

/-!
# Values on one line

The compact form of a value holds no line feed: numbers are digits and a few signs, and a line feed
inside a string is escaped.
-/

set_option autoImplicit false

namespace Scratchpad

theorem lineFeed_not_mem_toDigits (n : Nat) : '\n' ∉ Nat.toDigits 10 n := by
  intro inside
  have digit := Nat.isDigit_of_mem_toDigits (by decide) (by decide) inside
  exact absurd digit (by decide)

namespace FloatFormat

theorem mem_of_mem_significant {n : Nat} {c : Char} (inside : c ∈ significant n) :
    c ∈ Nat.toDigits 10 n := by
  have within := (List.dropWhile_sublist _).mem (List.mem_reverse.mp inside)
  exact List.mem_reverse.mp within

theorem lineFeed_not_mem_significant (n : Nat) : '\n' ∉ significant n := fun inside =>
  lineFeed_not_mem_toDigits n (mem_of_mem_significant inside)

theorem lineFeed_not_mem_text (format : FloatFormat) (x : Binary64) : '\n' ∉ format.text x := by
  have digits := lineFeed_not_mem_significant x.shortest.digits
  have taken (count : Nat) : '\n' ∉ (significant x.shortest.digits).take count := fun inside =>
    digits (List.mem_of_mem_take inside)
  have dropped (count : Nat) : '\n' ∉ (significant x.shortest.digits).drop count := fun inside =>
    digits (List.mem_of_mem_drop inside)
  have exponent (width n : Nat) : '\n' ∉ padLeft width (Nat.toDigits 10 n) := by
    simp [padLeft, lineFeed_not_mem_toDigits]
  unfold text
  dsimp only
  split
  · decide
  split
  · split
    · simp [digits]
    · split <;> simp [taken, dropped]
  · simp only [List.mem_append, List.mem_cons, not_or]
    refine ⟨?_, by decide, ?_, exponent _ _⟩
    · split
      · decide
      · next first => rwa [← first]
      · next first => simpa [first] using digits
    · split <;> decide

end FloatFormat

namespace Json

theorem Number.lineFeed_not_mem_render (n : Number) : '\n' ∉ n.render := by
  have real (x : Binary64) := floatFormat.lineFeed_not_mem_text x
  cases n with
  | natural n => exact lineFeed_not_mem_toDigits n
  | negative n => simp [render, lineFeed_not_mem_toDigits]
  | real negative x => cases negative <;> simp [render, real]

theorem lineFeed_not_mem_escape (c : Char) : '\n' ∉ escape c := by
  have hex : ∀ n < 0x20, '\n' ∉ fourHex n := by decide
  unfold escape
  split
  iterate 7 decide
  · next apart _ _ =>
    split
    · next low => simp [hex c.toNat low]
    · simpa using Ne.symm apart

theorem lineFeed_not_mem_quote (text : String) : '\n' ∉ quote text := by
  simp [quote, lineFeed_not_mem_escape]

namespace Value

mutual

theorem lineFeed_not_mem_render : ∀ value : Value, '\n' ∉ value.render
  | .null => by decide
  | .boolean true => by decide
  | .boolean false => by decide
  | .number n => n.lineFeed_not_mem_render
  | .string text => lineFeed_not_mem_quote text
  | .array items => by simp [render, lineFeed_not_mem_renderItems items]
  | .object members => by simp [render, lineFeed_not_mem_renderMembers members]

theorem lineFeed_not_mem_renderItems : ∀ items : List Value, '\n' ∉ renderItems items
  | [] => by decide
  | [item] => by simp [renderItems, lineFeed_not_mem_render item]
  | item :: next :: rest => by
    simp [renderItems, lineFeed_not_mem_render item, lineFeed_not_mem_renderItems (next :: rest)]

theorem lineFeed_not_mem_renderMembers :
    ∀ members : List (String × Value), '\n' ∉ renderMembers members
  | [] => by decide
  | [(key, value)] => by
    simp [renderMembers, lineFeed_not_mem_quote key, lineFeed_not_mem_render value]
  | (key, value) :: next :: rest => by
    simp [renderMembers, lineFeed_not_mem_quote key, lineFeed_not_mem_render value,
      lineFeed_not_mem_renderMembers (next :: rest)]

end

end Value

end Json

end Scratchpad
