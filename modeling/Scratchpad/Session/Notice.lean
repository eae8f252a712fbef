import Scratchpad.Json.Record

/-!
# Notices

A notice tells the user that something they just asked for did not come about. Failures in
the background are logged instead.
-/

set_option autoImplicit false

namespace Scratchpad.Session

open Json (Draft Fault Shape Value)

inductive NoticeKind where
  | moduleNotReady
  | evaluationError
  | exampleUnavailable
  deriving DecidableEq, Repr

namespace NoticeKind

def wire : NoticeKind → String
  | .moduleNotReady => "module_not_ready"
  | .evaluationError => "evaluation_error"
  | .exampleUnavailable => "example_unavailable"

def choices : List (String × NoticeKind) :=
  [("module_not_ready", .moduleNotReady), ("evaluation_error", .evaluationError),
    ("example_unavailable", .exampleUnavailable)]

def read : Draft → Except Fault NoticeKind :=
  Draft.choice choices

end NoticeKind

structure Notice where
  kind : NoticeKind
  message : String
  deriving DecidableEq, Repr

namespace Notice

/-- A run was asked for before the evaluator was loaded. -/
def moduleNotReady : Notice :=
  ⟨.moduleNotReady, "Evaluation module not loaded!"⟩

def evaluationError (message : String) : Notice :=
  ⟨.evaluationError, message⟩

/-- An example could not be fetched. -/
def exampleUnavailable : Notice :=
  ⟨.exampleUnavailable, "Cannot load example. See log for details."⟩

def toValue (notice : Notice) : Value :=
  .object [("kind", .string notice.kind.wire), ("message", .string notice.message)]

structure Form where
  kind : Option NoticeKind := none
  message : Option String := none

def shape : Shape Form Notice where
  name := "Notice"
  fields :=
    [.of "kind" .required Form.kind (fun form kind => { form with kind := some kind })
        NoticeKind.read,
      .of "message" .required Form.message
        (fun form message => { form with message := some message }) Draft.text]
  empty := {}
  finish form := do
    let kind ← Json.required "kind" form.kind
    let message ← Json.required "message" form.message
    return ⟨kind, message⟩

def read : Draft → Except Fault Notice :=
  shape.read

end Notice

end Scratchpad.Session
