/-!
# Splitting

Cutting a text, or any other sequence, at separators. Empty parts are kept, so the number of
parts is one more than the number of separators.
-/

set_option autoImplicit false

namespace Scratchpad.Text

variable {α : Type}

/-- The parts of a sequence between the items that separate. -/
def split (separates : α → Bool) : List α → List (List α)
  | [] => [[]]
  | c :: cs =>
    if separates c then [] :: split separates cs
    else match split separates cs with
      | [] => [[c]]
      | part :: parts => (c :: part) :: parts

def join (separator : List Char) : List (List Char) → List Char
  | [] => []
  | [part] => part
  | part :: parts => part ++ separator ++ join separator parts

theorem split_ne_nil (separates : α → Bool) (cs : List α) : split separates cs ≠ [] := by
  cases cs with
  | nil => simp [split]
  | cons c cs =>
    simp only [split]
    split
    · simp
    · split <;> simp

end Scratchpad.Text
