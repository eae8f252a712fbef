import Scratchpad.Text.Split

/-!
# Paths

A path is a text whose parts are separated by slashes. Repeated and trailing slashes mean
nothing when its components are listed, and neither does a single dot, except as the first
component of a relative path.
-/

set_option autoImplicit false

namespace Scratchpad

abbrev Path := List Char

namespace Path

inductive Component where
  | root
  | current
  | parent
  | normal (name : List Char)
  deriving DecidableEq, Repr

def isAbsolute (path : Path) : Bool :=
  path.head? == some '/'

/-- The parts between slashes, empty ones included. -/
def parts (path : Path) : List (List Char) :=
  Text.split (· == '/') path

def component? : List Char → Option Component
  | [] => none
  | ['.'] => none
  | ['.', '.'] => some .parent
  | name => some (.normal name)

def components (path : Path) : List Component :=
  let rest := path.parts.filterMap component?
  if path.isAbsolute then .root :: rest
  else if path.parts.head? == some ['.'] then .current :: rest
  else rest

/-- A path taken from a directory. An absolute path replaces the directory. -/
def join (directory path : Path) : Path :=
  if path.isAbsolute || directory.isEmpty then path
  else if directory.getLast? == some '/' then directory ++ path
  else directory ++ '/' :: path

end Path

end Scratchpad
