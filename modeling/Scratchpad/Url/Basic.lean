import Scratchpad.Url.Host
import Scratchpad.Url.Segment

/-!
# URLs

A URL in its parts. The parts are held in their encoded form, so that writing a URL only puts
them together.
-/

set_option autoImplicit false

namespace Scratchpad

/-- Who and where: what stands between the two slashes and the path. -/
structure Url.Authority where
  username : List Char := []
  password : Option (List Char) := none
  host : Url.Host
  port : Option Nat := none
  deriving DecidableEq, Repr

/-- The path of a URL: segments, each after a slash, or a text without structure. -/
inductive Url.Route where
  | hierarchy (segments : List (List Char))
  | plain (text : List Char)
  deriving DecidableEq, Repr

structure Url where
  scheme : List Char
  authority : Option Url.Authority
  route : Url.Route
  query : Option (List Char) := none
  fragment : Option (List Char) := none
  deriving DecidableEq, Repr

namespace Url

/-! ## Writing -/

/-- User name and password, with the sign after them. -/
def Authority.renderUser (authority : Authority) : List Char :=
  match authority.password with
  | some password => authority.username ++ ':' :: password ++ ['@']
  | none => if authority.username.isEmpty then [] else authority.username ++ ['@']

def Authority.renderPort (authority : Authority) : List Char :=
  match authority.port with
  | some port => ':' :: Nat.toDigits 10 port
  | none => []

/-- An authority with the slashes before it. -/
def Authority.render (authority : Authority) : List Char :=
  '/' :: '/' :: authority.renderUser ++ authority.host.render ++ authority.renderPort

def Route.render : Route → List Char
  | .hierarchy segments => segments.flatMap fun segment => '/' :: segment
  | .plain text => text

/-- A path that would be taken for an authority is kept apart by a dot. -/
def renderGuard (authority : Option Authority) (route : Route) : List Char :=
  match authority, route with
  | none, .hierarchy ([] :: _ :: _) => ['/', '.']
  | _, _ => []

/-- A part after its mark, if there is one. -/
def renderPart (mark : Char) : Option (List Char) → List Char
  | some text => mark :: text
  | none => []

/-- A URL up to its path. -/
def renderOrigin (url : Url) : List Char :=
  url.scheme ++ ':' :: ((url.authority.map Authority.render).getD [])

def render (url : Url) : List Char :=
  url.renderOrigin ++ renderGuard url.authority url.route ++ url.route.render ++
    renderPart '?' url.query ++ renderPart '#' url.fragment

/-! ## Changing -/

def withTrailingSlash (url : Url) : Url :=
  match url.route with
  | .hierarchy segments =>
    if segments.getLast? == some [] then url
    else { url with route := .hierarchy (closed (kind url.scheme) segments) }
  | .plain text =>
    if text.getLast? == some '/' then url else { url with route := .plain (closedText text) }

def withoutUser (url : Url) : Url :=
  { url with
    authority := url.authority.map fun authority =>
      { authority with username := [], password := none } }

end Url

end Scratchpad
