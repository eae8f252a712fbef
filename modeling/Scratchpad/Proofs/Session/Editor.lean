import Scratchpad.Session.Basic

/-!
# The editor of a session

What events do to the program, to the selection and to the examples to choose from. Edits and
examples reach the program, only examples reach the selection, and a first example does so only if
the session accepts it.
-/

set_option autoImplicit false

namespace Scratchpad.Session

open Catalog (Example)

variable {μ : Type}

/-- An example in the editor: its file, and the text that was fetched for it. -/
structure Placement where
  file : String
  program : String
  deriving DecidableEq, Repr

/-- What the user typed, if the event is that. -/
def Event.edit? : Event μ → Option String
  | .programEdited program => some program
  | _ => none

/-- The catalog that an event brings. -/
def Event.catalog? : Event μ → Option (List Example)
  | .catalogLoaded examples => some examples
  | _ => none

/-- The example that an event puts into the editor. -/
def placement? (session : Session μ) : Event μ → Option Placement
  | .exampleLoaded file program => some ⟨file, program⟩
  | .defaultExampleLoaded file program base =>
    if session.acceptsDefault base then some ⟨file, program⟩ else none
  | _ => none

theorem acceptsDefault_iff {session : Session μ} {base : String} :
    session.acceptsDefault base = true ↔ session.selected = none ∧ session.program = base := by
  simp [acceptsDefault]

private theorem editor_apply (session : Session μ) (event : Event μ) :
    (session.apply event).session.program =
        (event.edit?.or ((session.placement? event).map (·.program))).getD session.program ∧
      (session.apply event).session.selected =
        ((session.placement? event).map (·.file)).or session.selected ∧
      (session.apply event).session.examples = event.catalog?.getD session.examples := by
  cases event with
  | moduleLoaded handle =>
    simp only [apply, acceptModule]
    split <;> exact ⟨rfl, rfl, rfl⟩
  | moduleLoadFailed reason =>
    simp only [apply, acceptFailure]
    split <;> exact ⟨rfl, rfl, rfl⟩
  | defaultExampleLoaded file program base =>
    simp only [apply, placement?]
    split <;> exact ⟨rfl, rfl, rfl⟩
  | runCompleted evaluation time =>
    simp only [apply, record]
    split <;> exact ⟨rfl, rfl, rfl⟩
  | _ => exact ⟨rfl, rfl, rfl⟩

theorem program_apply (session : Session μ) (event : Event μ) :
    (session.apply event).session.program =
      (event.edit?.or ((session.placement? event).map (·.program))).getD session.program :=
  (editor_apply session event).1

theorem selected_apply (session : Session μ) (event : Event μ) :
    (session.apply event).session.selected =
      ((session.placement? event).map (·.file)).or session.selected :=
  (editor_apply session event).2.1

theorem examples_apply (session : Session μ) (event : Event μ) :
    (session.apply event).session.examples = event.catalog?.getD session.examples :=
  (editor_apply session event).2.2

end Scratchpad.Session
