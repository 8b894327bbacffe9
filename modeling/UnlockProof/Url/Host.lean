import UnlockProof.Url.Domain
import UnlockProof.Url.IpAddress
import UnlockProof.Url.Percent

/-!
# Hosts

The host of a URL is a domain name or an IP address. Under a scheme that is not special it is any
text without separators, which is kept as it is.
-/

namespace UnlockProof.Url

/-- Why a text is no URL. -/
inductive Fault where
  | noScheme
  | emptyHost
  | badDomain
  | badIpv4
  | badIpv6
  | badHostCharacter
  | badPort
deriving DecidableEq

/-- The text of a fault. -/
def Fault.message : Fault → String
  | noScheme => "relative URL without a base"
  | emptyHost => "empty host"
  | badDomain => "invalid international domain name"
  | badIpv4 => "invalid IPv4 address"
  | badIpv6 => "invalid IPv6 address"
  | badHostCharacter => "invalid domain character"
  | badPort => "invalid port number"

/-- A host. -/
inductive Host where
  | named (name : List Char)
  | ipv4 (address : Nat)
  | ipv6 (groups : List Nat)
deriving DecidableEq

namespace Host

/-- The text of a host. -/
def text : Host → List Char
  | named name => name
  | ipv4 address => Ipv4.text address
  | ipv6 groups => '[' :: Ipv6.text groups ++ [']']

/-- Reads an address in brackets, of which the opening one is read already. -/
def parseBracketed (cs : List Char) : Except Fault Host :=
  match cs.reverse with
  | ']' :: inner =>
      match Ipv6.parse inner.reverse with
      | some groups => .ok (ipv6 groups)
      | none => .error .badIpv6
  | _ => .error .badIpv6

/-- Reads the host of a special scheme. -/
def parse (cs : List Char) : Except Fault Host :=
  match cs with
  | '[' :: rest => parseBracketed rest
  | _ =>
      let bytes := percentDecode (Text.utf8 cs)
      match String.fromUTF8? ⟨bytes.toArray⟩ >>= fun s => domainToAscii s.toList with
      | none => .error .badDomain
      | some name =>
          if name.isEmpty then .error .emptyHost
          else if Ipv4.isMeant name then
            match Ipv4.parse name with
            | some address => .ok (ipv4 address)
            | none => .error .badIpv4
          else .ok (named name)

/-- Tells whether a character may not stand in a host that is kept as it is. -/
def isSeparator (c : Char) : Bool :=
  ['\x00', '\t', '\n', '\r', ' ', '#', '/', ':', '<', '>', '?', '@', '[', '\\', ']', '^',
    '|'].contains c

/-- Reads the host of any other scheme. -/
def parseKept (cs : List Char) : Except Fault Host :=
  match cs with
  | '[' :: rest => parseBracketed rest
  | _ =>
      if cs.any isSeparator then .error .badHostCharacter
      else .ok (named (percentEncode controlSet cs))

end Host
end UnlockProof.Url
