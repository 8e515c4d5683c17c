import KeyApproval.Domain.Name
import KeyApproval.Url.Address
import KeyApproval.Url.Encoding

/-!
# Hosts

The host of a URL: a name, possibly empty, or an address.
-/

namespace KeyApproval.Url

inductive ParseError where
  | emptyHost
  | invalidDomainName
  | invalidPort
  | invalidIpv4
  | invalidIpv6
  | relativeWithoutBase
  | baseCannotBeBase
  | invalidDomainCharacter
  deriving DecidableEq

def ParseError.message : ParseError → String
  | emptyHost => "empty host"
  | invalidDomainName => "invalid international domain name"
  | invalidPort => "invalid port number"
  | invalidIpv4 => "invalid IPv4 address"
  | invalidIpv6 => "invalid IPv6 address"
  | relativeWithoutBase => "relative URL without a base"
  | baseCannotBeBase => "relative URL with a cannot-be-a-base base"
  | invalidDomainCharacter => "invalid domain character"

inductive Host where
  | name (text : String)
  | ipv4 (address : UInt32)
  | ipv6 (pieces : List Nat)
  deriving DecidableEq

namespace Host

def render : Host → String
  | name text => text
  | ipv4 address => writeIpv4 address
  | ipv6 pieces => "[" ++ writeIpv6 pieces ++ "]"

def isEmpty : Host → Bool
  | name text => text == ""
  | _ => false

def readBracketed (s : List Char) : Except ParseError Host :=
  match s.reverse with
  | ']' :: inner =>
    match readIpv6? inner.reverse with
    | some pieces => .ok (ipv6 pieces)
    | none => .error .invalidIpv6
  | _ => .error .invalidIpv6

def readSpecial : List Char → Except ParseError Host
  | '[' :: rest => readBracketed rest
  | s =>
    match Domain.toAscii? (percentDecode (Text.Utf8.encode s)) with
    | none => .error .invalidDomainName
    | some [] => .error .emptyHost
    | some domain =>
      if endsInNumber domain then
        match readIpv4? domain with
        | some address => .ok (ipv4 address)
        | none => .error .invalidIpv4
      else .ok (name (String.ofList domain))

/-- Characters that the host of other schemes cannot hold. -/
def isForbiddenOpaque (c : Char) : Bool :=
  ['\x00', '\t', '\n', '\r', ' ', '#', '/', ':', '<', '>', '?', '@', '[', '\\', ']', '^', '|'].contains c

def readOpaque : List Char → Except ParseError Host
  | '[' :: rest => readBracketed rest
  | s =>
    if s.any isForbiddenOpaque then .error .invalidDomainCharacter
    else .ok (name (String.ofList (percentEncode .controls s)))

end Host

end KeyApproval.Url
