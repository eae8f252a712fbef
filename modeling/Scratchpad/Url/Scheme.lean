/-!
# Schemes

What the scheme of a URL means for the rest of it. Files have rules of their own, a few schemes
are special and have a port, and about all others nothing is known.
-/

set_option autoImplicit false

namespace Scratchpad.Url

/-- What a scheme means for the rest of the URL. -/
inductive Kind where
  | file
  | special
  | other
  deriving DecidableEq, Repr

def fileScheme : List Char :=
  ['f', 'i', 'l', 'e']

/-- The special schemes with their ports. -/
def defaultPorts : List (List Char × Nat) :=
  [(['h', 't', 't', 'p'], 80), (['h', 't', 't', 'p', 's'], 443), (['w', 's'], 80),
    (['w', 's', 's'], 443), (['f', 't', 'p'], 21)]

def kind (scheme : List Char) : Kind :=
  if scheme == fileScheme then .file
  else if (defaultPorts.lookup scheme).isSome then .special
  else .other

def isAsciiLetter (c : Char) : Bool :=
  ('a' ≤ c && c ≤ 'z') || ('A' ≤ c && c ≤ 'Z')

def isSchemeChar (c : Char) : Bool :=
  isAsciiLetter c || ('0' ≤ c && c ≤ '9') || c == '+' || c == '-' || c == '.'

/-- The scheme in lower case, and the text after its colon. -/
def scheme? (cs : List Char) : Option (List Char × List Char) :=
  match cs.takeWhile isSchemeChar, cs.dropWhile isSchemeChar with
  | c :: name, ':' :: rest =>
    if isAsciiLetter c then some ((c :: name).map Char.toLower, rest) else none
  | _, _ => none

def isAnySlash (c : Char) : Bool :=
  c == '/' || c == '\\'

/-- The characters that separate segments. -/
def isSlash (kind : Kind) (c : Char) : Bool :=
  c == '/' || (c == '\\' && kind != .other)

def endsAuthority (kind : Kind) (c : Char) : Bool :=
  isSlash kind c || c == '?' || c == '#'

end Scratchpad.Url
