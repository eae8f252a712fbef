import Scratchpad.Json.Record

/-!
# Key chords

A key press in the editor, with the modifier keys held down at the time.
-/

set_option autoImplicit false

namespace Scratchpad.Session

open Json (Draft Fault Shape Value)

structure KeyChord where
  key : String
  cmd : Bool := false
  ctrl : Bool := false
  alt : Bool := false
  shift : Bool := false
  deriving DecidableEq, Repr

namespace KeyChord

/-- The chord that runs the program: Enter with the command or the control key. -/
def isRunShortcut (chord : KeyChord) : Bool :=
  chord.key == "Enter" && (chord.cmd || chord.ctrl)

def toValue (chord : KeyChord) : Value :=
  .object [("key", .string chord.key), ("meta", .boolean chord.cmd),
    ("ctrl", .boolean chord.ctrl), ("alt", .boolean chord.alt), ("shift", .boolean chord.shift)]

structure Form where
  key : Option String := none
  cmd : Option Bool := none
  ctrl : Option Bool := none
  alt : Option Bool := none
  shift : Option Bool := none

def shape : Shape Form KeyChord where
  name := "KeyChord"
  fields :=
    [.of "key" .required Form.key (fun form key => { form with key := some key }) Draft.text,
      .of "meta" .defaulted Form.cmd (fun form on => { form with cmd := some on }) Draft.bool,
      .of "ctrl" .defaulted Form.ctrl (fun form on => { form with ctrl := some on }) Draft.bool,
      .of "alt" .defaulted Form.alt (fun form on => { form with alt := some on }) Draft.bool,
      .of "shift" .defaulted Form.shift (fun form on => { form with shift := some on }) Draft.bool]
  empty := {}
  finish form := do
    let key ← Json.required "key" form.key
    return ⟨key, form.cmd.getD false, form.ctrl.getD false, form.alt.getD false,
      form.shift.getD false⟩

def read : Draft → Except Fault KeyChord :=
  shape.read

end KeyChord

end Scratchpad.Session
