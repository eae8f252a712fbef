import Scratchpad.Url.Basic

/-!
# Reading URLs

A text is read as a URL by itself, or relative to a base. Blanks and controls around it are
dropped, and so are tabs and line ends inside it. For special schemes a backslash is as good
as a slash, and at the start of a relative text it is so for every scheme.
-/

set_option autoImplicit false

namespace Scratchpad.Url

/-! ## The text -/

/-- The characters that are dropped from both ends. -/
def isEdge (c : Char) : Bool :=
  c.toNat ≤ 0x20

/-- The characters that are dropped everywhere. -/
def isDropped (c : Char) : Bool :=
  c == '\t' || c == '\n' || c == '\r'

/-- The characters of a text that are looked at. -/
def strip (text : List Char) : List Char :=
  ((text.dropWhile isEdge).reverse.dropWhile isEdge).reverse.filter (!isDropped ·)

/-! ## Authority -/

/-- Cut before and after the last sign that ends user name and password. -/
def splitUser (kind : Kind) (cs : List Char) : Option (List Char × List Char) :=
  let authority := cs.takeWhile (!endsAuthority kind ·)
  let rest := cs.dropWhile (!endsAuthority kind ·)
  let host := (authority.reverse.takeWhile (· != '@')).reverse
  if host.length < authority.length then
    some (authority.take (authority.length - host.length - 1), host ++ rest)
  else none

/-- User name and password. An empty password is none. -/
def user (cs : List Char) : List Char × Option (List Char) :=
  let username := percentEncode userinfoSet (cs.takeWhile (· != ':'))
  match cs.dropWhile (· != ':') with
  | _ :: c :: password => (username, some (percentEncode userinfoSet (c :: password)))
  | _ => (username, none)

/-- Cut after the host: at a colon outside brackets, or at the end of the authority. -/
def splitHost (kind : Kind) : (inside : Bool) → List Char → List Char × List Char
  | _, [] => ([], [])
  | inside, c :: cs =>
    if (c == ':' && !inside) || endsAuthority kind c then ([], c :: cs)
    else
      let (host, rest) := splitHost kind (c == '[' || (inside && c != ']')) cs
      (c :: host, rest)

/-- Digits of a port, and what follows them. -/
def port (default : Option Nat) (cs : List Char) : Except Error (Option Nat × List Char) :=
  let digits := cs.takeWhile Json.isDigit
  let rest := cs.dropWhile Json.isDigit
  let number := digits.foldl (fun n c => n * 10 + Json.digitValue c) 0
  match rest with
  | c :: _ =>
    if 65535 < number || !(['/', '\\', '?', '#'].contains c) then .error .invalidPort
    else .ok (if digits.isEmpty || some number == default then none else some number, rest)
  | [] =>
    if 65535 < number then .error .invalidPort
    else .ok (if digits.isEmpty || some number == default then none else some number, [])

def hostAndPort (scheme : List Char) (hasUser : Bool) (cs : List Char) :
    Except Error (Host × Option Nat × List Char) := do
  let (text, rest) := splitHost (kind scheme) false cs
  let host ← match kind scheme, text with
    | .other, [] =>
      if hasUser || rest.head? == some ':' then .error .emptyHost else .ok (.other [])
    | .other, text => Host.parseOther text
    | _, [] => .error .emptyHost
    | _, text => Host.parse text
  match rest with
  | ':' :: rest => do
    let (number, rest) ← port (defaultPorts.lookup scheme) rest
    return (host, number, rest)
  | rest => return (host, none, rest)

def readAuthority (scheme : List Char) (cs : List Char) : Except Error (Authority × List Char) := do
  match splitUser (kind scheme) cs with
  | none =>
    let (host, number, rest) ← hostAndPort scheme false cs
    return ({ host, port := number }, rest)
  | some ([], rest) =>
    if (rest.head?.map (endsAuthority (kind scheme))).getD false then throw .emptyHost
    let (host, number, rest) ← hostAndPort scheme false rest
    return ({ host, port := number }, rest)
  | some (text, rest) =>
    let (username, password) := user text
    let (host, number, rest) ←
      hostAndPort scheme (!username.isEmpty || password.isSome) rest
    return ({ username, password, host, port := number }, rest)

/-! ## Path, query and fragment -/

/-- The path at the front of a text, and the text after it. -/
def cutPath (cs : List Char) : List Char × List Char :=
  (cs.takeWhile fun c => c != '?' && c != '#', cs.dropWhile fun c => c != '?' && c != '#')

def tail (kind : Kind) (cs : List Char) : Option (List Char) × Option (List Char) :=
  let set := if kind == .other then querySet else specialQuerySet
  match cs with
  | '?' :: rest =>
    let query := some (percentEncode set (rest.takeWhile (· != '#')))
    match rest.dropWhile (· != '#') with
    | _ :: fragment => (query, some (percentEncode fragmentSet fragment))
    | [] => (query, none)
  | '#' :: fragment => (none, some (percentEncode fragmentSet fragment))
  | _ => (none, none)

/-- A URL from its authority and a text that starts inside a directory of its path. -/
def complete (scheme : List Char) (authority : Option Authority)
    (directory : List (List Char)) (cs : List Char) : Url :=
  let (path, rest) := cutPath cs
  let (query, fragment) := tail (kind scheme) rest
  { scheme, authority, query, fragment
    route := .hierarchy (resolve (kind scheme) directory (written (kind scheme) path)) }

/-- The text without one slash at its start. -/
def dropSlash (kind : Kind) : List Char → List Char
  | c :: cs => if isSlash kind c then cs else c :: cs
  | [] => []

/-- The directory of a path: its segments without the last. -/
def directory (url : Url) : List (List Char) :=
  match url.route with
  | .hierarchy segments => segments.dropLast
  | .plain _ => []

/-- A base with another query and fragment, or none. -/
def withTail (base : Url) (cs : List Char) : Url :=
  match cs with
  | '?' :: _ =>
    let (query, fragment) := tail (kind base.scheme) cs
    { base with query, fragment }
  | cs => { base with fragment := (tail (kind base.scheme) cs).2 }

/-! ## Files -/

def noHost : Authority :=
  { host := .other [] }

/-- The host of a file. The local host and a drive are none. -/
def fileHost? (cs : List Char) : Except Error (Option Host × List Char) := do
  let text := cs.takeWhile (!endsAuthority .file ·)
  if text.isEmpty || isDrive text then return (none, cs)
  let rest := cs.dropWhile (!endsAuthority .file ·)
  match ← Host.parse text with
  | .domain ['l', 'o', 'c', 'a', 'l', 'h', 'o', 's', 't'] => return (none, rest)
  | host => return (some host, rest)

/-- A file URL, from the text after two slashes. A path that begins with a drive takes the host
away. -/
def fileAfterSlashes (cs : List Char) : Except Error Url := do
  match ← fileHost? cs with
  | (none, rest) => return complete fileScheme (some noHost) [] rest
  | (some host, rest) =>
    let path := dropSlash .file rest
    let segments := descend .file [] (written .file (cutPath path).1)
    let authority := if (segments.head?.map isDrive).getD false then noHost else { host }
    return complete fileScheme (some authority) [] path

def drive? (url : Url) : Option (List Char) :=
  match url.route with
  | .hierarchy ([letter, ':'] :: _) => if isAsciiLetter letter then some [letter, ':'] else none
  | _ => none

/-- A file URL, from the text after one slash. It keeps the drive of the base, or else its host,
unless it has a drive itself. -/
def fileAtRoot (base : Option Url) (cs : List Char) : Url :=
  match base with
  | some base =>
    if startsAtDrive cs then complete fileScheme (some noHost) [] cs
    else match base.drive? with
      | some drive => complete fileScheme (some noHost) [drive] cs
      | none => complete fileScheme base.authority [] cs
  | none => complete fileScheme (some noHost) [] cs

/-- A file URL, from a text without a slash at its start. -/
def fileRelative (base : Option Url) (cs : List Char) : Url :=
  match base, cs with
  | some base, [] | some base, '?' :: _ | some base, '#' :: _ => base.withTail cs
  | some base, cs =>
    if startsAtDrive cs then complete fileScheme (some noHost) [] cs
    else complete fileScheme base.authority base.directory cs
  | none, cs => complete fileScheme (some noHost) [] cs

/-- A file URL, from the text after its colon, or from a text relative to a file. -/
def file (base : Option Url) : List Char → Except Error Url
  | a :: b :: rest =>
    if isAnySlash a && isAnySlash b then fileAfterSlashes rest
    else if isAnySlash a then .ok (fileAtRoot base (b :: rest))
    else .ok (fileRelative base (a :: b :: rest))
  | [a] => .ok (if isAnySlash a then fileAtRoot base [] else fileRelative base [a])
  | [] => .ok (fileRelative base [])

/-! ## Whole URLs -/

/-- A URL with an authority, from the text after its slashes. -/
def afterSlashes (scheme : List Char) (cs : List Char) : Except Error Url := do
  let (authority, rest) ← readAuthority scheme cs
  match kind scheme, rest with
  | .other, [] | .other, '?' :: _ | .other, '#' :: _ =>
    let (query, fragment) := tail .other rest
    return { scheme, authority := some authority, route := .hierarchy [], query, fragment }
  | kind, rest => return complete scheme (some authority) [] (dropSlash kind rest)

/-- A URL of no special scheme, from the text after its colon. -/
def nonSpecial (scheme : List Char) : List Char → Except Error Url
  | '/' :: '/' :: rest => afterSlashes scheme rest
  | '/' :: rest => .ok (complete scheme none [] rest)
  | cs =>
    let (path, rest) := cutPath cs
    let (query, fragment) := tail .other rest
    .ok { scheme, authority := none, route := .plain (percentEncode controls path), query,
          fragment }

def slashes (cs : List Char) : Nat :=
  (cs.takeWhile isAnySlash).length

/-- A text that begins with a slash of either kind, relative to a base. -/
def fromSlash (base : Url) : List Char → Except Error Url
  | '/' :: '/' :: rest => afterSlashes base.scheme rest
  | cs =>
    let rest := cs.dropWhile isAnySlash
    if 2 ≤ slashes cs then afterSlashes base.scheme rest
    else .ok (complete base.scheme base.authority [] rest)

/-- A text relative to a base with a hierarchical path, which is not a file. -/
def relative (base : Url) (cs : List Char) : Except Error Url :=
  match cs with
  | [] | '?' :: _ | '#' :: _ => .ok (base.withTail cs)
  | c :: rest =>
    if isAnySlash c then fromSlash base (c :: rest)
    else .ok (complete base.scheme base.authority base.directory cs)

/-- A text with a scheme. A special scheme that is also the base's may go without slashes, and
is then relative. -/
def withScheme (base : Option Url) (scheme cs : List Char) : Except Error Url :=
  match kind scheme with
  | .file => file (base.filter (·.scheme == fileScheme)) cs
  | .other => nonSpecial scheme cs
  | .special =>
    match base with
    | some base =>
      if base.scheme == scheme && slashes cs < 2 then relative base cs
      else afterSlashes scheme (cs.dropWhile isAnySlash)
    | none => afterSlashes scheme (cs.dropWhile isAnySlash)

def withoutScheme (base : Url) (cs : List Char) : Except Error Url :=
  match base.route, cs with
  | _, '#' :: _ => .ok (base.withTail cs)
  | .plain _, _ => .error .plainBase
  | .hierarchy _, cs => if kind base.scheme == .file then file (some base) cs else relative base cs

def parse (text : List Char) : Except Error Url :=
  let cs := strip text
  match scheme? cs with
  | some (scheme, rest) => withScheme none scheme rest
  | none => .error .noBase

/-- The URL that a text is, seen from a base. -/
def join (base : Url) (text : List Char) : Except Error Url :=
  let cs := strip text
  match scheme? cs with
  | some (scheme, rest) => withScheme (some base) scheme rest
  | none => withoutScheme base cs

end Scratchpad.Url
