import CloudLookup.Text.Fields
import CloudLookup.Text.Numeral
import CloudLookup.Text.Utf8

/-! The address of a request, as far as a signature covers it. -/
namespace CloudLookup.Signature

structure Location where
  scheme : List Char
  authority : List Char
  path : List Char
  query : List Char
  deriving DecidableEq, Repr

inductive LocationFlaw where
  | tooLong
  | empty
  | invalidCharacter
  | schemeTooLong
  | invalidAuthority
  | invalidFormat
  deriving DecidableEq, Repr

def LocationFlaw.message : LocationFlaw → String
  | tooLong => "uri too long"
  | empty => "empty string"
  | invalidCharacter => "invalid uri character"
  | schemeTooLong => "scheme too long"
  | invalidAuthority => "invalid authority"
  | invalidFormat => "invalid format"

namespace Location

def isOneOf (marks : String) (c : Char) : Bool := c.isAlphanum || marks.toList.contains c

def splitScheme (s : List Char) : Except LocationFlaw (List Char × List Char) :=
  let scheme := s.takeWhile (isOneOf "+-.~")
  match Text.strip? [':', '/', '/'] (s.dropWhile (isOneOf "+-.~")) with
  | none => .ok ([], s)
  | some rest => if 64 < scheme.length then .error .schemeTooLong else .ok (scheme, rest)

structure Seen where
  colons : Nat := 0
  openBracket : Bool := false
  closeBracket : Bool := false
  percent : Bool := false
  atEnd : Bool := false

def scan (seen : Seen) : List Char → Except LocationFlaw Seen
  | [] => .ok seen
  | c :: s => do
    let seen := { seen with atEnd := false }
    let seen : Seen ←
      if c = ':' then
        if 8 ≤ seen.colons then .error .invalidAuthority
        else .ok { seen with colons := seen.colons + 1 }
      else if c = '[' then
        if seen.percent || seen.openBracket then .error .invalidAuthority
        else .ok { seen with openBracket := true }
      else if c = ']' then
        if !seen.openBracket || seen.closeBracket then .error .invalidAuthority
        else .ok { seen with closeBracket := true, colons := 0, percent := false }
      else if c = '@' then .ok { seen with atEnd := true, colons := 0, percent := false }
      else if c = '%' then .ok { seen with percent := true }
      else if isOneOf "!$&'()*+,-.;=_~" c then .ok seen
      else .error .invalidCharacter
    scan seen s

def splitAuthority (s : List Char) : Except LocationFlaw (List Char × List Char) := do
  let isEnd (c : Char) : Bool := c = '/' || c = '?' || c = '#'
  let authority := s.takeWhile fun c => !isEnd c
  let seen ← scan {} authority
  if seen.openBracket != seen.closeBracket || 1 < seen.colons || seen.atEnd || seen.percent then
    .error .invalidAuthority
  else .ok (authority, s.dropWhile fun c => !isEnd c)

def isPathChar (c : Char) : Bool :=
  let n := c.toNat
  n = 0x21 || (0x24 ≤ n && n ≤ 0x3B) || n = 0x3D || (0x40 ≤ n && n ≤ 0x5F) ||
    (0x61 ≤ n && n ≤ 0x7A) || n = 0x7C || 0x7E ≤ n || c = '"' || c = '\x7b' || c = '\x7d'

def isQueryChar (c : Char) : Bool :=
  let n := c.toNat
  n = 0x21 || (0x24 ≤ n && n ≤ 0x3B) || n = 0x3D || 0x3F ≤ n

def splitPath (s : List Char) : Except LocationFlaw (List Char × List Char) :=
  let path := s.takeWhile fun c => c != '?' && c != '#'
  let query := match s.dropWhile fun c => c != '?' && c != '#' with
    | '?' :: rest => rest.takeWhile (· ≠ '#')
    | _ => []
  if path.all isPathChar && query.all isQueryChar then .ok (path, query)
  else .error .invalidCharacter

def parse (s : List Char) : Except LocationFlaw Location := do
  if 65534 < Text.utf8Length s then .error .tooLong
  if s.isEmpty then .error .empty
  let (scheme, rest) ← splitScheme s
  let (authority, rest) ← splitAuthority rest
  if Text.strip? (scheme ++ [':', '/', '/']) s = none then
    if rest.isEmpty && !authority.isEmpty then .ok ⟨[], authority, [], []⟩
    else .error .invalidFormat
  else if authority.isEmpty then .error .invalidFormat
  else
    let (path, query) ← splitPath rest
    .ok ⟨scheme.map Char.toLower, authority, path, query⟩

def port? (l : Location) : Option Nat :=
  if l.authority.contains ':' then
    (Text.unsigned? (Text.afterLast ':' l.authority)).filter (· < 0x10000)
  else none

def bareHost (l : Location) : List Char :=
  let host := Text.afterLast '@' l.authority
  match host with
  | '[' :: _ => host.takeWhile (· ≠ ']') ++ [']']
  | _ => host.takeWhile (· ≠ ':')

/-- The host as it is signed: the authority, or the bare host when the port is the scheme's. -/
def signedHost (l : Location) : List Char :=
  match String.ofList l.scheme, l.port? with
  | "http", some 80 => l.bareHost
  | "https", some 443 => l.bareHost
  | _, _ => l.authority

end Location

end CloudLookup.Signature
