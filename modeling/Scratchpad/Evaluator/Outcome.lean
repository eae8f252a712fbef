import Scratchpad.Json.Record

/-!
# Evaluations

One evaluation of a program gives an outcome, a value or a message, and possibly a text that
the program printed on the way. On the wire an outcome is a record of its status and its
text, in either order; when the text comes first it is held back until the status is known.
-/

set_option autoImplicit false

namespace Scratchpad.Evaluator

open Json (Draft Fault Items Shape Value Wanted)

/-- Whether an evaluation gave a value. -/
inductive OutcomeStatus where
  | ok
  | err
  deriving DecidableEq, Repr

def OutcomeStatus.choices : List (String × OutcomeStatus) :=
  [("Ok", .ok), ("Err", .err)]

def OutcomeStatus.wire : OutcomeStatus → String
  | .ok => "Ok"
  | .err => "Err"

def OutcomeStatus.label : OutcomeStatus → String
  | .ok => "ok"
  | .err => "err"

def OutcomeStatus.read : Draft → Except Fault OutcomeStatus :=
  Draft.choice OutcomeStatus.choices

/-- What an evaluation came to. -/
inductive Outcome where
  /-- The program has this value. -/
  | ok (value : String)
  /-- The program has no value, for this reason. -/
  | err (message : String)
  deriving DecidableEq, Repr

namespace Outcome

def of : OutcomeStatus → String → Outcome
  | .ok, text => .ok text
  | .err, text => .err text

def status : Outcome → OutcomeStatus
  | .ok _ => .ok
  | .err _ => .err

def text : Outcome → String
  | .ok value => value
  | .err message => message

def toValue (outcome : Outcome) : Value :=
  .object [("status", .string outcome.status.wire), ("value", .string outcome.text)]

/-! ## Reading -/

def wanted : Wanted :=
  .tagged "EvaluationOutcome"

inductive Form where
  | blank
  | status (status : OutcomeStatus)
  | text (value : Value)
  | complete (outcome : Outcome)

/-- A held back value as text, given the text after the status that released it. -/
def release (value : Value) (after : List Char) : Except Fault String :=
  match value with
  | .string text => .ok text
  | value => .error (.before (.mismatch value.found .text) after)

/-- Take one member. `room` bounds the nesting of a text that comes first. -/
def member (room : Nat) (form : Form) (key : String) (colon : List Char) (value : Draft) :
    Except Fault Form :=
  match key, form with
  | "status", .blank => (OutcomeStatus.read value).map .status
  | "status", .text held => do
    let status ← OutcomeStatus.read value
    let after ← value.ending
    let text ← release held after
    return .complete (.of status text)
  | "value", .blank => (value.value room).map .text
  | "value", .status status => do
    let text ← value.text
    return .complete (.of status text)
  | "status", _ => .error (.before (.duplicateField "status") colon)
  | "value", _ => .error (.before (.duplicateField "value") colon)
  | _, form => value.ending.map fun _ => form

def close (after : List Char) : Form → Except Fault Outcome
  | .complete outcome => .ok outcome
  | .status _ => .error (.before (.missingField "value") after)
  | _ => .error (.before (.missingField "status") after)

structure Pair where
  status : Option OutcomeStatus
  text : Option String

/-- The two parts of an outcome in their order. Here a status is always written as a name. -/
def parts : List (Json.Field Pair) :=
  [.of "status" .required Pair.status (fun pair status => { pair with status := some status })
      (Draft.name OutcomeStatus.choices),
    .of "value" .required Pair.text (fun pair text => { pair with text := some text }) Draft.text]

def ofPair : Pair → Except Fault Outcome
  | ⟨some status, some text⟩ => .ok (.of status text)
  | ⟨some _, none⟩ => .error (.before (.missingField "value") [])
  | ⟨none, _⟩ => .error (.before (.missingField "status") [])

/-- Read an outcome inside which `room` more containers may be opened. -/
def read (room : Nat) : Draft → Except Fault Outcome
  | .object _ members _ => do
    let (form, after) ← members.fold (member (room - 1)) .blank
    close after form
  | .array _ items _ => do
    let pair ← items.fill wanted 0 parts ⟨none, none⟩
    ofPair pair
  | draft => .error (draft.refuse wanted)

end Outcome

/-- An outcome with what was printed on the way, if anything. -/
structure Evaluation where
  outcome : Outcome
  output : Option String := none
  deriving DecidableEq, Repr

namespace Evaluation

def ok (value : String) : Evaluation :=
  ⟨.ok value, none⟩

def err (message : String) : Evaluation :=
  ⟨.err message, none⟩

def toValue (evaluation : Evaluation) : Value :=
  .object [("outcome", evaluation.outcome.toValue), ("output", .ofText? evaluation.output)]

structure Form where
  outcome : Option Outcome := none
  output : Option (Option String) := none

def shape : Shape Form Evaluation where
  name := "Evaluation"
  fields :=
    [.of "outcome" .required Form.outcome
        (fun form outcome => { form with outcome := some outcome })
        (Outcome.read (Json.nesting - 1)),
      .of "output" .nullable Form.output (fun form output => { form with output := some output })
        Draft.text?]
  empty := {}
  finish form := do
    let outcome ← Json.required "outcome" form.outcome
    return ⟨outcome, form.output.getD none⟩

def read : Draft → Except Fault Evaluation :=
  shape.read

end Evaluation

end Scratchpad.Evaluator
