import Scratchpad.Catalog.Example
import Scratchpad.Evaluator.Outcome
import Scratchpad.Host.Request
import Scratchpad.Proofs.Json.Order
import Scratchpad.Session.Notice
import Scratchpad.Settings.Basic

/-!
# The records on the wire

Every record that the program reads, field by field: which members of an object it looks at, what it
asks of them, and what it makes of those that are missing. A field whose name comes more than once
is no field, and members of other names do not count.
-/

set_option autoImplicit false

namespace Scratchpad

open Json

namespace Catalog.Example

theorem lawful : shape.Lawful where
  faithful := by simp [shape]
  self := by simp [shape]
  pairs := by simp [shape]
  names := by decide

theorem found_object (members : List (String × Value)) :
    found read (.object members) = do
      let name ← field? "name" (found Draft.text) members
      let file ← field? "file" (found Draft.text) members
      return ⟨← name, ← file⟩ := by
  refine (lawful.found_object members).trans ?_
  refine fillAll_of_cons (Form.mk · none) (fun _ => rfl) (fun _ => rfl) fun name => ?_
  refine fillAll_of_cons (Form.mk name ·) (fun _ => rfl) (fun _ => rfl) fun file => ?_
  simp [shape, fillAll, pure, Except.pure]

end Catalog.Example

namespace Session

namespace Notice

theorem lawful : shape.Lawful where
  faithful := by simp [shape, NoticeKind.read]
  self := by simp [shape]
  pairs := by simp [shape]
  names := by decide

theorem found_object (members : List (String × Value)) :
    found read (.object members) = do
      let kind ← field? "kind" (found NoticeKind.read) members
      let message ← field? "message" (found Draft.text) members
      return ⟨← kind, ← message⟩ := by
  refine (lawful.found_object members).trans ?_
  refine fillAll_of_cons (Form.mk · none) (fun _ => rfl) (fun _ => rfl) fun kind => ?_
  refine fillAll_of_cons (Form.mk kind ·) (fun _ => rfl) (fun _ => rfl) fun message => ?_
  simp [shape, fillAll, pure, Except.pure]

end Notice

namespace KeyChord

theorem lawful : shape.Lawful where
  faithful := by simp [shape]
  self := by simp [shape]
  pairs := by simp [shape]
  names := by decide

theorem found_object (members : List (String × Value)) :
    found read (.object members) = do
      let key ← field? "key" (found Draft.text) members
      let cmd ← field? "meta" (found Draft.bool) members
      let ctrl ← field? "ctrl" (found Draft.bool) members
      let alt ← field? "alt" (found Draft.bool) members
      let shift ← field? "shift" (found Draft.bool) members
      return ⟨← key, cmd.getD false, ctrl.getD false, alt.getD false, shift.getD false⟩ := by
  refine (lawful.found_object members).trans ?_
  refine fillAll_of_cons (Form.mk · none none none none) (fun _ => rfl) (fun _ => rfl) fun key => ?_
  refine fillAll_of_cons (Form.mk key · none none none) (fun _ => rfl) (fun _ => rfl) fun cmd => ?_
  refine fillAll_of_cons (Form.mk key cmd · none none) (fun _ => rfl) (fun _ => rfl) fun ctrl => ?_
  refine fillAll_of_cons (Form.mk key cmd ctrl · none) (fun _ => rfl) (fun _ => rfl) fun alt => ?_
  refine fillAll_of_cons (Form.mk key cmd ctrl alt ·) (fun _ => rfl) (fun _ => rfl) fun shift => ?_
  simp [shape, fillAll, pure, Except.pure]

end KeyChord

end Session

namespace Host

theorem argument_lawful (name : String) : (argument name).Lawful where
  faithful := by simp [argument]
  self := by simp [argument]
  pairs := by simp [argument]
  names := by simp [argument]

theorem found_argument (name : String) (members : List (String × Value)) :
    found (argument name).read (.object members) =
      (field? name (found Draft.text) members).join := by
  refine ((argument_lawful name).found_object members).trans ?_
  change _ = (field? name (found Draft.text) members >>= id)
  refine fillAll_of_cons id (fun _ => rfl) (fun _ => rfl) fun text => ?_
  simp [argument, fillAll]

end Host

namespace Evaluator

namespace Outcome

/-- What a member adds to an outcome. -/
def take (room : Nat) (form : Form) (m : String × Value) : Option Form :=
  (member room form m.1 [] m.2.draft).toOption

theorem takes (room : Nat) : Takes (member room) (take room) := by
  intro form key colon draft value after shown
  have status := (faithful_choice OutcomeStatus.choices) shown value.draft_shows
  have text := faithful_text shown value.draft_shows
  have held := (shown.toOption_value room).trans (value.draft_shows.toOption_value room).symm
  have released (held : Value) : (release held after).toOption = (release held []).toOption := by
    cases held <;> rfl
  unfold take member
  split <;>
    simp [OutcomeStatus.read, status, text, held, released, shown.ending, value.draft_shows.ending]

theorem faithful_read (room : Nat) : Faithful (read room) := by
  have parts : ∀ field ∈ parts, field.IsFaithful := by simp [parts]
  intro draft other value after beyond shown again
  cases shown with
  | null | boolean | number | string => cases again; rfl
  | array inside =>
    cases again with
    | array within => simp only [read, toOption_bind, inside.toOption_fill parts within]
  | object inside =>
    cases again with
    | object within =>
      have closes (form : Form) : (close after form).toOption = (close beyond form).toOption := by
        cases form <;> rfl
      simp only [read, toOption_bind, inside.toOption_fold (takes _),
        within.toOption_fold (takes _), Option.bind_map, Function.comp_def, closes]

theorem found_object (room : Nat) (members : List (String × Value)) :
    found (read room) (.object members) =
      (takeAll (take (room - 1)) (some .blank) members).bind fun form =>
        (close [] form).toOption := by
  have shown := (Value.membersDraft_show members).toOption_fold (takes (room - 1)) .blank
  simp only [found, Value.draft, read, toOption_bind, shown, Option.bind_map, Function.comp_def]

end Outcome

namespace Evaluation

theorem lawful : shape.Lawful where
  faithful := by simp [shape, Outcome.faithful_read]
  self := by simp [shape]
  pairs := by simp [shape]
  names := by decide

theorem found_object (members : List (String × Value)) :
    found read (.object members) = do
      let outcome ← field? "outcome" (found (Outcome.read (nesting - 1))) members
      let output ← field? "output" (found Draft.text?) members
      return ⟨← outcome, output.getD none⟩ := by
  refine (lawful.found_object members).trans ?_
  refine fillAll_of_cons (Form.mk · none) (fun _ => rfl) (fun _ => rfl) fun outcome => ?_
  refine fillAll_of_cons (Form.mk outcome ·) (fun _ => rfl) (fun _ => rfl) fun output => ?_
  simp [shape, fillAll, pure, Except.pure]

end Evaluation

end Evaluator

namespace EvaluatorSettings

theorem lawful : shape.Lawful where
  faithful := by simp [shape]
  self := by simp [shape]
  pairs := by simp [shape]
  names := by decide

theorem found_object (members : List (String × Value)) :
    found shape.read (.object members) = do
      let command ← field? "command" (found Draft.text) members
      let args ← field? "args" (found (Draft.list Draft.text)) members
      return ofForm ⟨command, args⟩ := by
  refine (lawful.found_object members).trans ?_
  refine fillAll_of_cons (Form.mk · none) (fun _ => rfl) (fun _ => rfl) fun command => ?_
  refine fillAll_of_cons (Form.mk command ·) (fun _ => rfl) (fun _ => rfl) fun args => ?_
  rfl

end EvaluatorSettings

namespace Settings

theorem lawful : shape.Lawful where
  faithful := by simp [shape, EvaluatorSettings.lawful.faithful_read]
  self := by simp [shape]
  pairs := by simp [shape]
  names := by decide

theorem found_object (members : List (String × Value)) :
    found shape.read (.object members) = do
      let root ← field? "examples_root" (found Draft.text) members
      let evaluator ← field? "module" (found EvaluatorSettings.shape.read) members
      let program ← field? "default_program" (found Draft.text) members
      let filter ← field? "log_filter" (found Draft.text) members
      return ofForm ⟨root, evaluator, program, filter⟩ := by
  refine (lawful.found_object members).trans ?_
  refine fillAll_of_cons (Form.mk · none none none) (fun _ => rfl) (fun _ => rfl) fun root => ?_
  refine fillAll_of_cons (Form.mk root · none none) (fun _ => rfl) (fun _ => rfl)
    fun evaluator => ?_
  refine fillAll_of_cons (Form.mk root evaluator · none) (fun _ => rfl) (fun _ => rfl)
    fun program => ?_
  refine fillAll_of_cons (Form.mk root evaluator program ·) (fun _ => rfl) (fun _ => rfl)
    fun filter => ?_
  rfl

end Settings

end Scratchpad
