import CloudLookup.Url.Host

/-! Addresses on the web: their parts and their text. -/
namespace CloudLookup

namespace Url

structure Authority where
  username : List Char
  password : List Char
  host : Host
  port : Option Nat
  deriving DecidableEq, Repr

inductive Path where
  | segments (parts : List (List Char))
  | text (s : List Char)
  deriving DecidableEq, Repr

end Url

structure Url where
  scheme : List Char
  authority : Option Url.Authority
  path : Url.Path
  query : Option (List Char)
  fragment : Option (List Char)
  deriving DecidableEq, Repr

namespace Url

inductive Kind where
  | web
  | file
  | other
  deriving DecidableEq, Repr

def webPorts : List (String × Nat) :=
  [("http", 80), ("https", 443), ("ws", 80), ("wss", 443), ("ftp", 21)]

def defaultPort? (scheme : List Char) : Option Nat := webPorts.lookup (String.ofList scheme)

def kindOf (scheme : List Char) : Kind :=
  if (defaultPort? scheme).isSome then .web
  else if scheme = "file".toList then .file
  else .other

/-- Backslashes count as slashes, and there always is a path. -/
def Kind.isSpecial : Kind → Bool
  | web | file => true
  | other => false

def Authority.userinfo (a : Authority) : List Char :=
  if a.username.isEmpty && a.password.isEmpty then []
  else a.username ++ (if a.password.isEmpty then [] else ':' :: a.password) ++ ['@']

def Authority.render (a : Authority) : List Char :=
  let port := match a.port with
    | some n => ':' :: Text.decimal n
    | none => []
  a.userinfo ++ a.host.render ++ port

def Path.render : Path → List Char
  | segments parts => parts.flatMap ('/' :: ·)
  | text s => s

def target (u : Url) : List Char :=
  let query := match u.query with
    | some q => '?' :: q
    | none => []
  u.path.render ++ query

/-- The text of an address. A path that would be taken for an authority is marked. -/
def render (u : Url) : List Char :=
  let authority := match u.authority with
    | some a => '/' :: '/' :: a.render
    | none => if (Text.strip? ['/', '/'] u.path.render).isSome then ['/', '.'] else []
  let fragment := match u.fragment with
    | some f => '#' :: f
    | none => []
  u.scheme ++ ':' :: authority ++ u.target ++ fragment

def isSingleDot (segment : List Char) : Bool :=
  ["." , "%2e"].contains (String.ofList (segment.map Char.toLower))

def isDoubleDot (segment : List Char) : Bool :=
  ["..", ".%2e", "%2e.", "%2e%2e"].contains (String.ofList (segment.map Char.toLower))

def drive? (segment : List Char) : Option Char :=
  match segment with
  | [a, ':'] => if a.isAlpha then some a else none
  | [a, '|'] => if a.isAlpha then some a else none
  | _ => none

/-- Drops the last segment. A drive stays. -/
def shorten (parts : List (List Char)) : List (List Char) :=
  if (parts.getLast?.bind drive?).isSome then parts else parts.dropLast

/-- Adds an encoded segment to a path. Dots move within it; the last segment leaves an empty one in
their place. A drive that begins the path of a file is written with a colon. -/
def addSegment (kind : Kind) (parts : List (List Char)) (segment : List Char) (isLast : Bool) :
    List (List Char) :=
  let rest := if isLast then [[]] else []
  if isDoubleDot segment then shorten parts ++ rest
  else if isSingleDot segment then parts ++ rest
  else
    match kind, parts, drive? segment with
    | .file, [], some letter => [[letter, ':']]
    | _, _, _ => parts ++ [segment]

end Url

end CloudLookup
