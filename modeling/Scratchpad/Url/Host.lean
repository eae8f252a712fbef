import Scratchpad.Url.Domain
import Scratchpad.Url.Encode
import Scratchpad.Url.Ipv6

/-!
# Hosts

The host of a URL of a special scheme is an address or a domain in lower case; that of any
other scheme is kept as it stands.
-/

set_option autoImplicit false

namespace Scratchpad.Url

inductive Error where
  | emptyHost
  | invalidPort
  | invalidIpv4
  | invalidIpv6
  | invalidDomain
  | invalidDomainCharacter
  | noBase
  | plainBase
  deriving DecidableEq, Repr

def Error.message : Error → String
  | .emptyHost => "empty host"
  | .invalidPort => "invalid port number"
  | .invalidIpv4 => "invalid IPv4 address"
  | .invalidIpv6 => "invalid IPv6 address"
  | .invalidDomain => "invalid international domain name"
  | .invalidDomainCharacter => "invalid domain character"
  | .noBase => "relative URL without a base"
  | .plainBase => "relative URL with a cannot-be-a-base base"

inductive Host where
  | domain (name : List Char)
  | ipv4 (address : Nat)
  | ipv6 (pieces : List Nat)
  /-- The host of a scheme about which nothing is known; it may be empty. -/
  | other (text : List Char)
  deriving DecidableEq, Repr

namespace Host

def render : Host → List Char
  | .domain name => name
  | .ipv4 address => Ipv4.render address
  | .ipv6 pieces => Ipv6.render pieces
  | .other text => text

/-- Characters that no host of any scheme contains. -/
def isForbidden (c : Char) : Bool :=
  ['\x00', '\t', '\n', '\r', ' ', '#', '/', ':', '<', '>', '?', '@', '[', '\\', ']', '^',
    '|'].contains c

/-- Characters that no domain contains. -/
def isForbiddenInDomain (c : Char) : Bool :=
  isForbidden c || controls c || c == '%'

def bracketed (rest : List Char) : Except Error Host :=
  if rest.getLast? != some ']' then .error .invalidIpv6
  else match Ipv6.parse? rest.dropLast with
    | some pieces => .ok (.ipv6 pieces)
    | none => .error .invalidIpv6

/-- A domain in the form in which it is looked up. -/
def ofDomain (domain : List Char) : Except Error Host :=
  if domain.any isForbiddenInDomain then .error .invalidDomain
  else if domain.isEmpty then .error .emptyHost
  else if Ipv4.endsInNumber domain then
    match Ipv4.parse? domain with
    | some address => .ok (.ipv4 address)
    | none => .error .invalidIpv4
  else .ok (.domain domain)

/-- The host of a special scheme. -/
def parse : List Char → Except Error Host
  | '[' :: rest => bracketed rest
  | text =>
    match Text.Utf8.decode (percentDecode text) with
    | .ok cs =>
      match Domain.ascii? cs with
      | some name => ofDomain name
      | none => .error .invalidDomain
    | .error _ => .error .invalidDomain

/-- The host of any other scheme. -/
def parseOther : List Char → Except Error Host
  | '[' :: rest => bracketed rest
  | text =>
    if text.any isForbidden then .error .invalidDomainCharacter
    else .ok (.other (percentEncode controls text))

end Host

end Scratchpad.Url
