import Scratchpad.Url.Domain.Composition
import Scratchpad.Url.Domain.Direction
import Scratchpad.Url.Domain.Joining
import Scratchpad.Url.Domain.Mapping
import Scratchpad.Url.Punycode

/-!
# Domains

The form in which a domain is looked up. Its characters are mapped and composed, its labels are
checked, and a label outside ASCII is encoded. A label that is encoded already is checked as what
it stands for, so that the form of a form is that form again.
-/

set_option autoImplicit false

namespace Scratchpad.Url.Domain

def isAscii (text : List Char) : Bool :=
  text.all (·.toNat < 0x80)

/-- The greatest number of characters of a label that is encoded. The standard sets no limit, here
or to what is decoded. -/
def encodeLimit : Nat := 1000

/-- The greatest number of characters of a label that is decoded. -/
def decodeLimit : Nat := 2000

/-- The text that an encoded label stands for. Nothing inside ASCII is ever encoded. -/
def decodeLabel? (encoded : List Char) : Option (List Char) :=
  if decodeLimit < encoded.length then none
  else match Punycode.decode? encoded with
    | some label => if isAscii label then none else some label
    | none => none

/-- The text of a label, which may be encoded. -/
def readLabel? : List Char → Option (List Char)
  | 'x' :: 'n' :: '-' :: '-' :: encoded => decodeLabel? encoded
  | label => some label

def writeLabel (label : List Char) : List Char :=
  if isAscii label then label else 'x' :: 'n' :: '-' :: '-' :: Punycode.encode label

/-- A label that may be encoded: it does not begin with a mark, its joiners are allowed, and its
characters stand for themselves and are composed. -/
def isProper (label : List Char) : Bool :=
  isAscii label ||
    (!(label.head?.map isMark).getD false && joinersAllowed [] label &&
      label.length ≤ encodeLimit && label.all isStable && normal label == label)

/-- Labels that may stand together: if one of them runs from right to left, each of them runs in
one direction. -/
def agree (labels : List (List Char)) : Bool :=
  !labels.any (·.any turns) || labels.all isDirected

/-- A domain in the form in which it is looked up, if it has one. -/
def ascii? (domain : List Char) : Option (List Char) := do
  let mapped ← mapped? domain
  let labels ← (Text.split (· == '.') (normal mapped)).mapM readLabel?
  if labels.all isProper && agree labels then
    some (Text.join ['.'] (labels.map writeLabel))
  else none

end Scratchpad.Url.Domain
