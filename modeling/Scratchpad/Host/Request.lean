import Scratchpad.Session.KeyChord

/-!
# Requests

A request is one JSON object: a command with its arguments, and an optional number that the
answer carries back. The number is read where it stands. The command may follow its
arguments, so everything else is first checked to be JSON and understood only after the
object has ended; what is wrong with a command is therefore reported at the end of its object.
-/

set_option autoImplicit false

namespace Scratchpad.Host

open Json (Cause Draft Fault Members Shape)
open Session (KeyChord)

/-- What the frontend can ask for. -/
inductive Request where
  | getState
  | editProgram (program : String)
  | clearOutput
  | listExamples
  | selectExample (file : String)
  | run
  | keyDown (chord : KeyChord)
  | loadModule
  deriving DecidableEq, Repr

/-- The commands without their arguments. -/
inductive Command where
  | getState
  | editProgram
  | clearOutput
  | listExamples
  | selectExample
  | run
  | keyDown
  | loadModule
  deriving DecidableEq, Repr

namespace Command

/-- The commands by name. A command may also be given by its place in this list. -/
def choices : List (String × Command) :=
  [("get_state", .getState), ("edit_program", .editProgram), ("clear_output", .clearOutput),
    ("list_examples", .listExamples), ("select_example", .selectExample), ("run", .run),
    ("key_down", .keyDown), ("load_module", .loadModule)]

def ofIndex (index : Nat) : Except Cause Command :=
  match choices[index]? with
  | some (_, command) => .ok command
  | none => .error (.invalidValue (.number (.natural index)) (.variantIndex choices.length))

def read : Draft → Except Fault Command
  | .string _ name after => Json.chosen choices name after
  | .number _ (.natural index) after => (ofIndex index).mapError (.before · after)
  | draft => .error (draft.refuse .variant)

end Command

/-- A command with a single text as its argument. -/
def argument (name : String) : Shape (Option String) String where
  name := name
  fields := [.of name .required id (fun _ text => some text) Draft.text]
  empty := none
  finish form := Json.required name form

namespace Request

def command (found : Option Command) (key : String) (colon : List Char) (value : Draft) :
    Except Fault (Option Command) :=
  match key, found with
  | "command", none => (Command.read value).map some
  | "command", some _ => .error (.before (.duplicateField "command") colon)
  | _, found => .ok found

/-- The request that a command makes with its arguments among the members. -/
def ofCommand (members : Members) : Command → Except Fault Request
  | .getState => .ok .getState
  | .editProgram => ((argument "program").ofMembers members).map .editProgram
  | .clearOutput => .ok .clearOutput
  | .listExamples => .ok .listExamples
  | .selectExample => ((argument "file").ofMembers members).map .selectExample
  | .run => .ok .run
  | .keyDown => (KeyChord.shape.ofMembers members).map .keyDown
  | .loadModule => .ok .loadModule

def ofMembers (members : Members) : Except Fault Request := do
  let (found, after) ← members.fold command none
  match found with
  | some command => ofCommand members command
  | none => .error (.before (.missingField "command") after)

end Request

/-- A request with the number that its answer carries. -/
structure Envelope where
  id : Option Nat
  request : Request
  deriving DecidableEq, Repr

namespace Envelope

/-- Take one member: the number is kept, anything else only has to be JSON. -/
def member (id : Option (Option Nat)) (key : String) (colon : List Char) (value : Draft) :
    Except Fault (Option (Option Nat)) :=
  match key, id with
  | "id", none => value.natural?.map some
  | "id", some _ => .error (.before (.duplicateField "id") colon)
  | _, id => (value.value (Json.nesting - 1)).map fun _ => id

def read : Draft → Except Fault Envelope
  | .object _ members _ => do
    let (id, after) ← members.fold member none
    let request ← (Request.ofMembers members).mapError fun fault => .before fault.cause after
    return ⟨id.getD none, request⟩
  | draft => .error (draft.refuse (.record "Envelope"))

def ofText (text : String) : Except Fault Envelope :=
  Json.read read text

end Envelope

end Scratchpad.Host
