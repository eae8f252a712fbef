import Scratchpad.Text.Split
import Scratchpad.Url.Encode
import Scratchpad.Url.Scheme

/-!
# Segments of paths

A path is a list of segments, each after a slash. Dot segments, also with encoded dots, are
resolved while a path is read. A drive, a letter with a colon or a bar, is a directory that
nothing is above. At the root of a file's path it is written with a colon.
-/

set_option autoImplicit false

namespace Scratchpad.Url

/-! ## Dots -/

/-- A dot, which may be encoded. -/
def isDot (cs : List Char) : Bool :=
  cs == ['.'] || cs == ['%', '2', 'e'] || cs == ['%', '2', 'E']

/-- A segment that stands for the directory itself. -/
def isSingleDot (segment : List Char) : Bool :=
  isDot segment

/-- A segment that stands for the directory above. -/
def isDoubleDot (segment : List Char) : Bool :=
  (isDot (segment.take 1) && isDot (segment.drop 1)) ||
    (isDot (segment.take 3) && isDot (segment.drop 3))

/-! ## Drives -/

/-- The letter and the mark of a drive. -/
def marksDrive (letter mark : Char) : Bool :=
  isAsciiLetter letter && (mark == ':' || mark == '|')

def isDrive : List Char → Bool
  | [letter, mark] => marksDrive letter mark
  | _ => false

/-- A segment that begins like a drive, up to its end or a backslash. -/
def beginsDrive : List Char → Bool
  | letter :: mark :: rest =>
    marksDrive letter mark && (rest.isEmpty || rest.head? == some '\\')
  | _ => false

/-- A text that begins with a drive as its first segment. -/
def startsAtDrive : List Char → Bool
  | letter :: mark :: rest =>
    marksDrive letter mark && (rest.head?.map (endsAuthority .file)).getD true
  | _ => false

/-- A segment as it is written in a directory. -/
def placed (kind : Kind) (directory : List (List Char)) (segment : List Char) : List Char :=
  if kind == .file && directory.isEmpty && isDrive segment then segment.take 1 ++ [':']
  else segment

/-! ## Paths -/

def above (directory : List (List Char)) : List (List Char) :=
  if (directory.getLast?.map beginsDrive).getD false then directory else directory.dropLast

/-- Go down from a directory along segments. The last segment is never a directory, so a dot
at the end leaves an empty segment. -/
def descend (kind : Kind) (directory : List (List Char)) : List (List Char) → List (List Char)
  | [] => directory
  | [last] =>
    if isDoubleDot last then above directory ++ [[]]
    else if isSingleDot last then directory ++ [[]]
    else directory ++ [placed kind directory last]
  | segment :: rest =>
    if isDoubleDot segment then descend kind (above directory) rest
    else if isSingleDot segment then descend kind directory rest
    else descend kind (directory ++ [placed kind directory segment]) rest

/-- The encoded segments of a path, as they are written. -/
def written (kind : Kind) (path : List Char) : List (List Char) :=
  (Text.split (isSlash kind) path).map (percentEncode pathSet)

/-- The segments without empty ones at their start, as long as one is left. -/
def dropLeadingEmpty : List (List Char) → List (List Char)
  | [] :: segment :: rest => dropLeadingEmpty (segment :: rest)
  | segments => segments

/-- The segments that a path leads to from a directory. The path of a file does not begin with
empty segments. -/
def resolve (kind : Kind) (directory : List (List Char)) (segments : List (List Char)) :
    List (List Char) :=
  if kind == .file then dropLeadingEmpty (descend kind directory segments)
  else descend kind directory segments

/-- Segments with a slash after the last one. They are the path of a URL already, so at most the
way in which a drive is written changes. -/
def closed (kind : Kind) (segments : List (List Char)) : List (List Char) :=
  if kind == .file then resolve kind [] (segments ++ [[]]) else segments ++ [[]]

/-- A path without structure that ends in a slash. It does not begin with one. -/
def closedText (path : List Char) : List Char :=
  if path.isEmpty then ['%', '2', 'F'] else path ++ ['/']

end Scratchpad.Url
