import Scratchpad.FileSystem

/-!
# Launching programs

A file is launched by its path. A file that begins with an interpreter line is launched by
launching the interpreter with the path as an argument; any other file that is no program is
refused.

A name without a slash is tried in the directories of a search path. Where there is no such
file, or none that may be executed, the next directory is tried; every other failure ends the
search.
-/

set_option autoImplicit false

namespace Scratchpad.Evaluator

/-! ## Interpreter lines -/

/-- An interpreter, and the one argument that comes before the path of the file. -/
structure Interpreter where
  path : List UInt8
  argument : Option (List UInt8)
  deriving DecidableEq, Repr

namespace Interpreter

/-- Spaces and tabs separate the parts of an interpreter line. -/
def isGap (byte : UInt8) : Bool :=
  byte == 0x20 || byte == 0x09

/-- A name ends at a gap, and at a zero. -/
def isEnd (byte : UInt8) : Bool :=
  isGap byte || byte == 0

/-- How many bytes are looked at behind the mark with which an interpreter line begins. -/
def room : Nat := 254

/-- The bytes that are looked at. A short file is filled up with zeros. -/
def head (bytes : List UInt8) : List UInt8 :=
  (bytes ++ List.replicate room 0).take room

/-- The line at the front of the bytes that are looked at. When no line feed is among them, or
a zero comes first, they are the line as long as the name is seen to end; the last byte is then
left out. -/
def line? (head : List UInt8) : Option (List UInt8) :=
  let line := head.takeWhile fun byte => byte != 0x0A && byte != 0
  if (head.drop line.length).head? == some 0x0A then some line
  else if (head.dropWhile isGap).any isEnd then some (head.take (room - 1))
  else none

def ofLine? (line : List UInt8) : Option Interpreter :=
  match (line.reverse.dropWhile isGap).reverse.dropWhile isGap with
  | [] => none
  | parts =>
    let path := parts.takeWhile (!isEnd ·)
    match parts.drop path.length with
    | byte :: rest =>
      if isGap byte then some ⟨path, some ((rest.dropWhile isGap).takeWhile (· != 0))⟩
      else some ⟨path, none⟩
    | [] => some ⟨path, none⟩

def ofBytes? : List UInt8 → Option Interpreter
  | 0x23 :: 0x21 :: bytes => (line? (head bytes)).bind ofLine?
  | _ => none

end Interpreter

/-! ## Launching -/

/-- A program that is about to run, and its arguments. -/
structure Launched where
  behaviour : Behaviour
  args : List (List UInt8)
  deriving DecidableEq, Repr

/-- What the file at a path holds, if it may be executed. An empty path is a directory, the
current one. -/
def contentToRun (files : FileSystem) (path : List UInt8) : Except FileError Content :=
  if path.isEmpty then .error .accessDenied
  else do
    let node ← files.findBytes path
    node.executable

/-- Launch the file at a path, with at most the given number of interpreters in between. -/
def launchThrough (files : FileSystem) :
    Nat → List UInt8 → List (List UInt8) → Except FileError Launched
  | 0, path, _ => do
    let _ ← contentToRun files path
    throw .tooManyLevels
  | interpreters + 1, path, args => do
    match ← contentToRun files path with
    | .program behaviour => return ⟨behaviour, args⟩
    | .bytes bytes =>
      match Interpreter.ofBytes? bytes with
      | none => throw .badFormat
      | some interpreter =>
        launchThrough files interpreters interpreter.path
          (interpreter.argument.toList ++ path :: args)

/-- The greatest number of files that are looked at for one launch. -/
def launchLimit : Nat := 6

def launch (files : FileSystem) (path : List UInt8) (args : List (List UInt8)) :
    Except FileError Launched :=
  launchThrough files launchLimit path args

/-- Launch the first file that can be launched. `failure` is what is reported when none can:
a file that may not be executed outweighs those that are missing, and otherwise the last
failure counts. -/
def launchFirst (files : FileSystem) (args : List (List UInt8)) :
    FileError → List (List UInt8) → Except FileError Launched
  | failure, [] => .error failure
  | failure, path :: paths =>
    match launch files path args with
    | .ok launched => .ok launched
    | .error error =>
      if error == .accessDenied || error == .notFound || error == .notDirectory then
        launchFirst files args (if failure == .accessDenied then failure else error) paths
      else .error error

/-- The paths at which a name is tried. An empty entry of the search path is the current
directory. -/
def candidates (searchPath name : List UInt8) : List (List UInt8) :=
  (Text.split (· == 0x3A) searchPath).map fun entry =>
    if entry.isEmpty then name else entry ++ 0x2F :: name

/-- Launch a program by its path, or by a name to be searched for. -/
def launchCommand (files : FileSystem) (searchPath command : List UInt8)
    (args : List (List UInt8)) : Except FileError Launched :=
  if command.contains 0x2F then launch files command args
  else launchFirst files args .notFound (candidates searchPath command)

end Scratchpad.Evaluator
