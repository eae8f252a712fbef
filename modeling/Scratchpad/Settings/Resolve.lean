import Scratchpad.Catalog.Source
import Scratchpad.Settings.Basic

/-!
# Resolving settings

Settings come in layers: the defaults, a file named by the environment, and single settings
from the environment. A variable that is no text overrides nothing.
-/

set_option autoImplicit false

namespace Scratchpad

inductive SetupError where
  | catalog (error : Catalog.Error)
  | serialization (report : String)
  | io (error : FileError)
  | config (invalid : Settings.Invalid)
  deriving DecidableEq, Repr

def SetupError.message : SetupError → String
  | .catalog error => "Catalog error: " ++ error.message
  | .serialization report => "Serialization error: " ++ report
  | .io error => "IO error: " ++ error.message
  | .config invalid => "Configuration error: " ++ invalid.message

/-- The variables of the environment that the program looks at. -/
structure Environment where
  searchPath : Option (List UInt8) := none
  configFile : Option (List UInt8) := none
  examplesRoot : Option (List UInt8) := none
  command : Option (List UInt8) := none
  deriving DecidableEq, Repr

namespace Settings

/-- The settings that a file holds, once it is found. -/
def ofFile (found : Except FileError Node) : Except SetupError Settings :=
  match found.bind Node.text with
  | .error error => .error (.io error)
  | .ok text => (ofText text).mapError fun fault => .serialization (fault.message text.toList)

def load (files : FileSystem) (path : Path) : Except SetupError Settings :=
  ofFile (files.find path)

/-- The text of a variable, if it is one. -/
def variableText (value : Option (List UInt8)) : Option String :=
  value.bind fun bytes => (Text.Utf8.decode bytes).toOption.map String.ofList

/-- The settings with those that the environment gives one by one. -/
def override (settings : Settings) (environment : Environment) : Settings :=
  { settings with
    examplesRoot := (variableText environment.examplesRoot).getD settings.examplesRoot
    evaluator :=
      { settings.evaluator with
        command := (variableText environment.command).getD settings.evaluator.command } }

/-- The settings before single ones are overridden. The name of the file need not be a text. -/
def base (files : FileSystem) (environment : Environment) : Except SetupError Settings :=
  match environment.configFile with
  | some path => ofFile (files.findBytes path)
  | none => .ok {}

def resolve (files : FileSystem) (environment : Environment) : Except SetupError Settings := do
  let settings := (← base files environment).override environment
  settings.validate.mapError .config
  return settings

/-- The source of examples of valid settings. -/
def source (settings : Settings) : Except SetupError Catalog.Source := do
  settings.validate.mapError .config
  (Catalog.Source.ofRoot settings.examplesRoot).mapError .catalog

end Settings

end Scratchpad
