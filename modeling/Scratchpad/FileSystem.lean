import Scratchpad.Path
import Scratchpad.Text.Utf8

/-!
# File systems

A tree of directories and files with a current directory. A path is walked part by part, and
the first thing that is wrong on the way is the error. There are no links.
-/

set_option autoImplicit false

namespace Scratchpad

/-- Why a file cannot be used. -/
inductive FileError where
  /-- No path contains a null character. -/
  | nullInName
  /-- No argument of a program contains a null character. -/
  | nullInArgument
  | notFound
  | badFormat
  | accessDenied
  | notDirectory
  | isDirectory
  | nameTooLong
  | tooManyLevels
  | notText
  deriving DecidableEq, Repr

def FileError.message : FileError → String
  | .nullInName => "file name contained an unexpected NUL byte"
  | .nullInArgument => "nul byte found in provided data"
  | .notFound => "No such file or directory (os error 2)"
  | .badFormat => "Exec format error (os error 8)"
  | .accessDenied => "Permission denied (os error 13)"
  | .notDirectory => "Not a directory (os error 20)"
  | .isDirectory => "Is a directory (os error 21)"
  | .nameTooLong => "File name too long (os error 36)"
  | .tooManyLevels => "Too many levels of symbolic links (os error 40)"
  | .notText => "stream did not contain valid UTF-8"

inductive Ending where
  | exit (code : Nat)
  /-- By a signal, which may leave the memory behind. -/
  | signal (number : Nat) (dumped : Bool := false)
  deriving DecidableEq, Repr

/-- What a program does: it writes its arguments, each on a line, and its input, if it is made
to, and then fixed texts; then it ends. -/
structure Behaviour where
  writesArgs : Bool := false
  writesInput : Bool := false
  stdout : List UInt8 := []
  stderr : List UInt8 := []
  ending : Ending := .exit 0
  deriving DecidableEq, Repr

inductive Content where
  | bytes (bytes : List UInt8)
  | program (behaviour : Behaviour)
  deriving DecidableEq, Repr

/-- A file with its permission bits, or a directory with its entries. -/
inductive Node where
  | file (content : Content) (mode : Nat)
  | directory (entries : List (List Char × Node))
  deriving Repr

namespace Node

def child? (name : List Char) : Node → Option Node
  | .file _ _ => none
  | .directory entries => entries.lookup name

def isDirectory : Node → Bool
  | .file _ _ => false
  | .directory _ => true

def text : Node → Except FileError String
  | .directory _ => .error .isDirectory
  | .file (.program _) _ => .ok ""
  | .file (.bytes bytes) _ =>
    match Text.Utf8.decode bytes with
    | .ok cs => .ok (String.ofList cs)
    | .error _ => .error .notText

/-- What a file holds that someone may execute. -/
def executable : Node → Except FileError Content
  | .directory _ => .error .accessDenied
  | .file content mode => if mode &&& 0o111 == 0 then .error .accessDenied else .ok content

/-- Put an entry in place of any other of its name. -/
def put (tree : Node) (name : List Char) (entry : Node) : Node :=
  match tree with
  | .file _ _ => .directory [(name, entry)]
  | .directory entries => .directory ((name, entry) :: entries.filter (·.1 != name))

/-- Put a node at a place, making the directories on the way. A directory put in place of a
directory leaves it alone. -/
def place (node : Node) : List (List Char) → Node → Node
  | [], old => if node.isDirectory && old.isDirectory then old else node
  | name :: names, tree =>
    tree.put name (node.place names ((tree.child? name).getD (.directory [])))

end Node

/-- A tree, and the names that lead from its root to the current directory. -/
structure FileSystem where
  tree : Node
  current : List (List Char)
  deriving Repr

namespace FileSystem

/-- The greatest number of bytes in the name of an entry. -/
def nameLimit : Nat := 255

/-- The number of bytes that a path must stay below. -/
def pathLimit : Nat := 4096

/-- The nodes from a place up to the root, the place itself first. -/
abbrev Place := List Node

def enter (place : Place) (name : List Char) : Except FileError Place :=
  match place with
  | [] => .error .notFound
  | node :: above =>
    if !node.isDirectory then .error .notDirectory
    else if nameLimit < Text.Utf8.size name then .error .nameTooLong
    else match node.child? name with
      | some entry => .ok (entry :: node :: above)
      | none => .error .notFound

/-- Take one part of a path. Empty parts and single dots stay where they are, in a directory. -/
def step (place : Place) (part : List Char) : Except FileError Place :=
  match part, place with
  | [], node :: above | ['.'], node :: above =>
    if node.isDirectory then .ok (node :: above) else .error .notDirectory
  | ['.', '.'], node :: parent :: above =>
    if node.isDirectory then .ok (parent :: above) else .error .notDirectory
  | ['.', '.'], place => .ok place
  | name, place => enter place name

def walk (place : Place) (parts : List (List Char)) : Except FileError Place :=
  parts.foldlM step place

def origin (files : FileSystem) (path : Path) : Except FileError Place :=
  if path.isAbsolute then .ok [files.tree]
  else walk [files.tree] files.current

def find (files : FileSystem) (path : Path) : Except FileError Node := do
  if path.contains '\x00' then throw .nullInName
  if path.isEmpty then throw .notFound
  if pathLimit ≤ Text.Utf8.size path then throw .nameTooLong
  let start ← files.origin path
  let place ← walk start path.parts
  match place with
  | node :: _ => return node
  | [] => throw .notFound

/-- Take one part of a path that is given in bytes. Every entry is named by a text. -/
def stepBytes (place : Place) (part : List UInt8) : Except FileError Place :=
  match Text.Utf8.decode part, place with
  | .ok name, place => step place name
  | .error _, node :: _ =>
    if !node.isDirectory then .error .notDirectory
    else if nameLimit < part.length then .error .nameTooLong
    else .error .notFound
  | .error _, [] => .error .notFound

/-- What a path leads to that is given in bytes. One that is no text leads nowhere. -/
def findBytes (files : FileSystem) (path : List UInt8) : Except FileError Node :=
  match Text.Utf8.decode path with
  | .ok text => files.find text
  | .error _ => do
    if pathLimit ≤ path.length then throw .nameTooLong
    let start ← files.origin (Text.Utf8.lossy path)
    let _ ← (Text.split (· == 0x2F) path).foldlM stepBytes start
    throw .notFound

def readText (files : FileSystem) (path : Path) : Except FileError String := do
  let node ← files.find path
  node.text

def isExecutable (files : FileSystem) (path : Path) : Bool :=
  match files.find path with
  | .ok node => node.executable.isOk
  | .error _ => false

/-- Put a node at a path below the current directory. -/
def write (files : FileSystem) (path : Path) (node : Node) : FileSystem :=
  let names := path.parts.filter fun part => part != [] && part != ['.']
  { files with tree := node.place (files.current ++ names) files.tree }

end FileSystem

end Scratchpad
