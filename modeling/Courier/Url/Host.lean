import Courier.Idna.Domain
import Courier.Text.Utf8
import Courier.Url.Ipv4
import Courier.Url.Ipv6
import Courier.Url.Percent

/-!
# Hosts of URLs

The host of a URL of the web is a domain name or an address; that of any other URL is a text that
is kept as it is.
-/

namespace Courier.Url

open Courier.Text

/-- Why a text is not a URL. -/
inductive ParseError where
  | relativeWithoutBase
  | emptyHost
  | invalidPort
  | invalidIpv4
  | invalidIpv6
  | invalidDomainName
  | invalidDomainCharacter
  deriving Repr, DecidableEq

/-- The wording of an error. -/
def ParseError.message : ParseError → String
  | .relativeWithoutBase => "relative URL without a base"
  | .emptyHost => "empty host"
  | .invalidPort => "invalid port number"
  | .invalidIpv4 => "invalid IPv4 address"
  | .invalidIpv6 => "invalid IPv6 address"
  | .invalidDomainName => "invalid international domain name"
  | .invalidDomainCharacter => "invalid domain character"

/-- What a URL points to. -/
inductive Host where
  | domain (name : String)
  | ipv4 (address : Nat)
  | ipv6 (pieces : List Nat)
  /-- A host whose meaning is up to the scheme. -/
  | named (text : String)
  deriving Repr, DecidableEq

namespace Host

/-- An address in brackets, if the text begins with one: `none` if it does not. -/
def bracketed? : List Char → Option (Except ParseError Host)
  | '[' :: rest =>
    some <| if rest.getLast? = some ']' then
      match Ipv6.parse? rest.dropLast with
      | some pieces => .ok (.ipv6 pieces)
      | none => .error .invalidIpv6
    else .error .invalidIpv6
  | _ => none

/-- The host of a URL of the web. -/
def parse (text : List Char) : Except ParseError Host :=
  match bracketed? text with
  | some result => result
  | none =>
    match Utf8.decode? (Percent.decode (Utf8.encode text)) with
    | none => .error .invalidDomainName
    | some decoded =>
      match Idna.toAscii? decoded with
      | none => .error .invalidDomainName
      | some [] => .error .emptyHost
      | some name =>
        if Ipv4.endsInNumber name then
          match Ipv4.parse? name with
          | some address => .ok (.ipv4 address)
          | none => .error .invalidIpv4
        else .ok (.domain (String.ofList name))

/-- The characters that no host may hold. -/
def isForbidden (c : Char) : Bool :=
  ['\x00', '\t', '\n', '\r', ' ', '#', '/', ':', '<', '>', '?', '@', '[', '\\', ']', '^',
    '|'].contains c

/-- The host of a URL whose scheme is none of the web's. -/
def parseNamed (text : List Char) : Except ParseError Host :=
  match bracketed? text with
  | some result => result
  | none =>
    if text.any isForbidden then .error .invalidDomainCharacter
    else .ok (.named (String.ofList text))

end Host

end Courier.Url
