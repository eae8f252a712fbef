import Scratchpad.Json.Record

/-!
# Examples

A catalog is a list of examples in the order of its manifest. The manifest is a JSON array
with one record for each example.
-/

set_option autoImplicit false

namespace Scratchpad.Catalog

open Json (Draft Fault Shape Value)

/-- An entry of the catalog: the name that is shown, and the file with the program. -/
structure Example where
  name : String
  file : String
  deriving DecidableEq, Repr

namespace Example

def toValue (entry : Example) : Value :=
  .object [("name", .string entry.name), ("file", .string entry.file)]

structure Form where
  name : Option String := none
  file : Option String := none

def shape : Shape Form Example where
  name := "ExampleRef"
  fields :=
    [.of "name" .required Form.name (fun form name => { form with name := some name }) Draft.text,
      .of "file" .required Form.file (fun form file => { form with file := some file }) Draft.text]
  empty := {}
  finish form := do
    let name ← Json.required "name" form.name
    let file ← Json.required "file" form.file
    return ⟨name, file⟩

def read : Draft → Except Fault Example :=
  shape.read

end Example

/-- The examples of a manifest, in its order. -/
def readManifest (text : String) : Except Fault (List Example) :=
  Json.read (Draft.list Example.read) text

end Scratchpad.Catalog
