import Scratchpad.Evaluator.Launch
import Scratchpad.Evaluator.Process
import Scratchpad.Evaluator.State

/-!
# Evaluators that are commands

A command is a path, or a name that is looked up in a list of directories. Loading finds the
executable; every evaluation runs it afresh with the program as its input.
-/

set_option autoImplicit false

namespace Scratchpad.Evaluator

structure Command where
  /-- The command as it was configured. -/
  name : String
  executable : Path
  args : List String
  deriving DecidableEq, Repr

namespace Command

/-- The directories of a search path. An empty entry is the current directory, and one that is
no text names nothing. -/
def directories (searchPath : List UInt8) : List Path :=
  (Text.split (· == 0x3A) searchPath).filterMap fun entry => (Text.Utf8.decode entry).toOption

/-- A command that is a path, and not to be looked up. -/
def isPath (command : Path) : Bool :=
  command.isAbsolute || 1 < command.components.length

/-- The first executable of the given name in the directories. -/
def search (files : FileSystem) (name : Path) (directories : List Path) : Option Path :=
  (directories.map (Path.join · name)).find? files.isExecutable

/-- The executable that a command names. -/
def resolve (files : FileSystem) (searchPath : Option (List UInt8)) (command : String) :
    Except LoadError Path :=
  match Text.trimChars command.toList with
  | [] => .error (.load "evaluator command is empty")
  | trimmed =>
    if isPath trimmed then
      if files.isExecutable trimmed then .ok trimmed
      else .error (.notFound (String.ofList trimmed))
    else
      match searchPath.bind fun list => search files trimmed (directories list) with
      | some executable => .ok executable
      | none => .error (.notFound (String.ofList trimmed))

def load (files : FileSystem) (searchPath : Option (List UInt8)) (name : String)
    (args : List String) : Except LoadError Command :=
  (resolve files searchPath name).map fun executable => { name, executable, args }

/-! ## Running -/

def perform (launched : Launched) (input : String) : Output where
  ending := launched.behaviour.ending
  stdout :=
    (if launched.behaviour.writesArgs then launched.args.flatMap (· ++ [0x0A]) else []) ++
    (if launched.behaviour.writesInput then Text.Utf8.encode input.toList else []) ++
    launched.behaviour.stdout
  stderr := launched.behaviour.stderr

/-- Run an executable. One whose path has no slash was found in the current directory, and is
searched for once more. -/
def run (files : FileSystem) (searchPath : Option (List UInt8)) (executable : Path)
    (args : List String) (input : String) : Except FileError Output := do
  if args.any (·.toList.contains '\x00') then throw .nullInArgument
  let launched ← launchCommand files (searchPath.getD []) (Text.Utf8.encode executable)
    (args.map fun argument => Text.Utf8.encode argument.toList)
  return perform launched input

def evaluate (files : FileSystem) (searchPath : Option (List UInt8)) (command : Command)
    (program : String) : Evaluation :=
  ofRun ((run files searchPath command.executable command.args program).mapError (·.message))

end Command

end Scratchpad.Evaluator
