import CloudLookup.Url.Address
import CloudLookup.Url.Domain

/-! Hosts of addresses. -/
namespace CloudLookup.Url

inductive Host where
  /-- A name; it may be empty where the scheme allows that. -/
  | domain (name : List Char)
  | ipv4 (address : Nat)
  | ipv6 (pieces : List Nat)
  deriving DecidableEq, Repr

inductive Problem where
  | relative
  | emptyHost
  | invalidPort
  | invalidDomain
  | invalidIpv4
  | invalidIpv6
  | invalidHostCharacter
  deriving DecidableEq, Repr

def Problem.message : Problem → String
  | relative => "relative URL without a base"
  | emptyHost => "empty host"
  | invalidPort => "invalid port number"
  | invalidDomain => "invalid international domain name"
  | invalidIpv4 => "invalid IPv4 address"
  | invalidIpv6 => "invalid IPv6 address"
  | invalidHostCharacter => "invalid domain character"

namespace Host

def render : Host → List Char
  | domain name => name
  | ipv4 address => ipv4Text address
  | ipv6 pieces => '[' :: ipv6Text pieces ++ [']']

def isPresent : Host → Bool
  | domain name => !name.isEmpty
  | _ => true

def ofBrackets (s : List Char) : Except Problem Host :=
  if s.getLast? = some ']' then
    match ipv6? s.dropLast with
    | some pieces => .ok (.ipv6 pieces)
    | none => .error .invalidIpv6
  else .error .invalidIpv6

def parse (s : List Char) : Except Problem Host :=
  match s with
  | '[' :: rest => ofBrackets rest
  | _ =>
    match (Text.ofUtf8? (percentDecode s)).bind Domain.toAscii? with
    | none => .error .invalidDomain
    | some [] => .error .emptyHost
    | some name =>
      if endsInNumber name then
        match ipv4? name with
        | some address => .ok (.ipv4 address)
        | none => .error .invalidIpv4
      else .ok (.domain name)

def isForbidden (c : Char) : Bool :=
  "\x00\t\n\r #/:<>?@[\\]^|".toList.contains c

def parseOther (s : List Char) : Except Problem Host :=
  match s with
  | '[' :: rest => ofBrackets rest
  | _ =>
    if s.any isForbidden then .error .invalidHostCharacter
    else .ok (.domain (percentEncode isControl s))

end Host

end CloudLookup.Url
