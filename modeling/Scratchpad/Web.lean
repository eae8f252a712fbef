import Scratchpad.Url.Parse

/-!
# The web

What comes back when a URL is asked for. Only `http` and `https` URLs are ever asked for, user
name and password go along apart from the URL, and a server that cannot be reached gives
nothing. A server can redirect to another URL, which is asked for in its turn, whoever serves it.
-/

set_option autoImplicit false

namespace Scratchpad

structure Web.Response where
  status : Nat
  body : List UInt8
  deriving DecidableEq, Repr

/-- The answer of a server: a response, or a redirect to the URL that is to be asked for next. A
redirect that names no such URL is a response like any other. -/
inductive Web.Answer where
  | response (response : Response)
  | redirect (next : Url)
  deriving DecidableEq, Repr

/-- The web, as seen from here: what is answered to a URL without its fragment, if anything. -/
abbrev Web := List Char → Option Web.Answer

namespace Web

def unreachable : Web :=
  fun _ => none

inductive Failure where
  /-- It could not be made. -/
  | building (url : Url)
  /-- It could not be sent. -/
  | sending (url : Url)
  /-- It was redirected once too often. -/
  | redirecting (url : Url)
  deriving DecidableEq, Repr

def Failure.message : Failure → String
  | .building url => "builder error for url (" ++ String.ofList url.render ++ ")"
  | .sending url => "error sending request for url (" ++ String.ofList url.render ++ ")"
  | .redirecting url => "error following redirect for url (" ++ String.ofList url.render ++ ")"

/-- User name and password as texts are taken off the URL. A password that is no text is as
good as none; a user name that is no text leaves everything in place. -/
def withoutCredentials (url : Url) : Url :=
  let isText (cs : List Char) := (Text.Utf8.decode (Url.percentDecode cs)).isOk
  match url.authority with
  | some authority =>
    if isText authority.username &&
        (!authority.username.isEmpty || (authority.password.map isText).getD false) then
      url.withoutUser
    else url
  | none => url

theorem withoutCredentials_eq (url : Url) :
    withoutCredentials url = url ∨ withoutCredentials url = url.withoutUser := by
  unfold withoutCredentials
  split
  · dsimp only
    split
    · exact .inr rfl
    · exact .inl rfl
  · exact .inl rfl

theorem withoutCredentials_withoutUser (url : Url) :
    withoutCredentials url.withoutUser = url.withoutUser := by
  cases named : url.authority <;> simp [withoutCredentials, Url.withoutUser, named]

/-- A request can be made for a web URL whose host can be written in a request. -/
def isSendable (url : Url) : Bool :=
  (url.scheme == ['h', 't', 't', 'p'] || url.scheme == ['h', 't', 't', 'p', 's']) &&
    match url.authority with
    | some authority =>
      !authority.host.render.any ['"', '`', '\x7b', '\x7d'].contains
    | none => false

@[simp] theorem isSendable_withoutCredentials (url : Url) :
    isSendable (withoutCredentials url) = isSendable url := by
  rcases withoutCredentials_eq url with same | taken
  · rw [same]
  · rw [taken]
    cases named : url.authority <;> simp [isSendable, Url.withoutUser, named]

/-- The URL as a server is asked for it. -/
def target (url : Url) : List Char :=
  { withoutCredentials url with fragment := none }.render

@[simp] theorem target_withoutCredentials (url : Url) :
    target (withoutCredentials url) = target url := by
  rcases withoutCredentials_eq url with same | taken
  · rw [same]
  · rw [target, taken, withoutCredentials_withoutUser, target, taken]

/-- The greatest number of redirects on the way from one URL. -/
def redirectLimit : Nat := 10

/-- Ask for a URL, and go on where servers redirect to, at most the given number of times. The
requests that reach a server come in order, with the response at the end. -/
def follow (web : Web) (redirects : Nat) (url : Url) :
    List (List Char) × Except Failure Response :=
  if !isSendable url then ([], .error (.building url))
  else match web (target url) with
    | none => ([], .error (.sending url))
    | some (.response response) => ([target url], .ok response)
    | some (.redirect next) =>
      match redirects with
      | 0 => ([target url], .error (.redirecting url))
      | redirects + 1 =>
        let (requests, result) := follow web redirects next
        (target url :: requests, result)

def get (web : Web) (url : Url) : Except Failure Response :=
  (follow web redirectLimit (withoutCredentials url)).2

/-- The requests that reach a server when a URL is asked for. -/
def requests (web : Web) (url : Url) : List (List Char) :=
  (follow web redirectLimit (withoutCredentials url)).1

end Web

end Scratchpad
