import CloudLookup.Url.Basic

/-! Reading addresses. -/
namespace CloudLookup.Url

/-- Drops controls and spaces at both ends, and tabs and line ends everywhere. -/
def clean (s : List Char) : List Char :=
  let isOuter (c : Char) : Bool := c ≤ ' '
  let trimmed := ((s.dropWhile isOuter).reverse.dropWhile isOuter).reverse
  trimmed.filter fun c => !(c = '\t' || c = '\n' || c = '\r')

def readScheme? (s : List Char) : Option (List Char × List Char) := do
  let (scheme, rest) ← Text.splitFirst ':' s
  let first ← scheme.head?
  if first.isAlpha && scheme.all fun c => c.isAlphanum || c = '+' || c = '-' || c = '.' then
    some (scheme.map Char.toLower, rest)
  else none

def endsAuthority (kind : Kind) (c : Char) : Bool :=
  c = '/' || c = '?' || c = '#' || (kind.isSpecial && c = '\\')

def readUserinfo (kind : Kind) (s : List Char) :
    Except Problem (List Char × List Char × List Char) :=
  let authority := s.takeWhile fun c => !endsAuthority kind c
  let rest := s.dropWhile fun c => !endsAuthority kind c
  if !authority.contains '@' then .ok ([], [], s)
  else
    let host := Text.afterLast '@' authority
    let userinfo := authority.take (authority.length - host.length - 1)
    if userinfo.isEmpty && host.isEmpty && !rest.isEmpty then .error .emptyHost
    else
      let (name, password) := (Text.splitFirst ':' userinfo).getD (userinfo, [])
      .ok (percentEncode inUserinfoSet name, percentEncode inUserinfoSet password, host ++ rest)

def splitHost (kind : Kind) (inBrackets : Bool) : List Char → List Char × List Char
  | [] => ([], [])
  | c :: s =>
    if endsAuthority kind c || (c = ':' && !inBrackets) then ([], c :: s)
    else
      let inBrackets := if c = '[' then true else if c = ']' then false else inBrackets
      let (host, rest) := splitHost kind inBrackets s
      (c :: host, rest)

def readPort (scheme : List Char) (s : List Char) : Except Problem (Option Nat × List Char) :=
  let isEnd (c : Char) : Bool := c = '/' || c = '\\' || c = '?' || c = '#'
  let digits := s.takeWhile Char.isDigit
  let rest := s.dropWhile Char.isDigit
  let port := numberIn 10 digits
  if 65535 < port || !rest.head?.all isEnd then .error .invalidPort
  else if digits.isEmpty || defaultPort? scheme = some port then .ok (none, rest)
  else .ok (some port, rest)

def readAuthority (scheme s : List Char) : Except Problem (Authority × List Char) := do
  let kind := kindOf scheme
  let (username, password, s) ← readUserinfo kind s
  let (hostText, rest) := splitHost kind false s
  if hostText.isEmpty && kind.isSpecial then .error .emptyHost
  let host ← if kind.isSpecial then Host.parse hostText else Host.parseOther hostText
  if !host.isPresent && rest.head? = some ':' then .error .emptyHost
  let (port, rest) ← match rest with
    | ':' :: rest => readPort scheme rest
    | rest => .ok (none, rest)
  let authority : Authority := ⟨username, password, host, port⟩
  if !host.isPresent && !authority.userinfo.isEmpty then .error .emptyHost
  .ok (authority, rest)

def splitPath (kind : Kind) (s : List Char) : List (List Char) :=
  Text.fields '/' (if kind.isSpecial then s.map fun c => if c = '\\' then '/' else c else s)

def ofSegments (kind : Kind) (parts : List (List Char)) : List (List Char) → List (List Char)
  | [] => parts
  | segment :: rest =>
    ofSegments kind (addSegment kind parts (percentEncode inPathSet segment) rest.isEmpty) rest

def readSegments (kind : Kind) (s : List Char) : List (List Char) :=
  ofSegments kind [] (splitPath kind s)

def endsPath (c : Char) : Bool := c = '?' || c = '#'

def readPath (kind : Kind) (s : List Char) : List (List Char) :=
  match s with
  | [] => if kind.isSpecial then [[]] else []
  | c :: rest =>
    readSegments kind (if c = '/' || (kind.isSpecial && c = '\\') then rest else c :: rest)

def readEnd (kind : Kind) (s : List Char) : Option (List Char) × Option (List Char) :=
  let fragment (s : List Char) : Option (List Char) :=
    match s with
    | '#' :: f => some (percentEncode inFragmentSet f)
    | _ => none
  match s with
  | '?' :: rest =>
    let set := if kind.isSpecial then inSpecialQuerySet else inQuerySet
    (some (percentEncode set (rest.takeWhile (· ≠ '#'))), fragment (rest.dropWhile (· ≠ '#')))
  | s => (none, fragment s)

/-- The path of a file. Empty segments at its start do not count. -/
def readFilePath (parts : List (List Char)) : Path :=
  let shown := parts.dropWhile List.isEmpty
  .segments (if shown.isEmpty then [[]] else shown)

/-- The address of a file on a host, given the text after the host. A path that begins with a drive
has no host. -/
def ofFile (scheme : List Char) (host : Host) (s : List Char) : Url :=
  let path := s.takeWhile fun c => !endsPath c
  let (query, fragment) := readEnd .file (s.dropWhile fun c => !endsPath c)
  let parts := match path with
    | [] => [[]]
    | c :: rest => readSegments .file (if c = '/' || c = '\\' then rest else path)
  let host := if (parts.head?.bind drive?).isSome then .domain [] else host
  ⟨scheme, some ⟨[], [], host, none⟩, readFilePath parts, query, fragment⟩

def readFile (scheme s : List Char) : Except Problem Url := do
  let isSlash (c : Char) : Bool := c = '/' || c = '\\'
  let afterSlashes := match s with
    | a :: b :: rest => if isSlash a && isSlash b then some rest else none
    | _ => none
  match afterSlashes with
  | none => .ok (ofFile scheme (.domain []) s)
  | some s =>
    let hostText := s.takeWhile fun c => !endsAuthority .file c
    let rest := s.dropWhile fun c => !endsAuthority .file c
    if hostText.isEmpty || (drive? hostText).isSome then .ok (ofFile scheme (.domain []) s)
    else
      let host ← Host.parse hostText
      .ok (ofFile scheme (if host = .domain "localhost".toList then .domain [] else host) rest)

def withAuthority (scheme : List Char) (authority : Authority) (s : List Char) : Url :=
  let kind := kindOf scheme
  let path := readPath kind (s.takeWhile fun c => !endsPath c)
  let (query, fragment) := readEnd kind (s.dropWhile fun c => !endsPath c)
  ⟨scheme, some authority, .segments path, query, fragment⟩

def readOther (scheme s : List Char) : Except Problem Url :=
  match s with
  | '/' :: '/' :: rest => do
    let (authority, rest) ← readAuthority scheme rest
    .ok (withAuthority scheme authority rest)
  | _ =>
    let path := s.takeWhile fun c => !endsPath c
    let (query, fragment) := readEnd .other (s.dropWhile fun c => !endsPath c)
    match path with
    | '/' :: rest => .ok ⟨scheme, none, .segments (readSegments .other rest), query, fragment⟩
    | _ => .ok ⟨scheme, none, .text (percentEncode isControl path), query, fragment⟩

def parse (s : List Char) : Except Problem Url :=
  match readScheme? (clean s) with
  | none => .error .relative
  | some (scheme, rest) =>
    match kindOf scheme with
    | .web =>
      (readAuthority scheme (rest.dropWhile fun c => c = '/' || c = '\\')).map fun (a, rest) =>
        withAuthority scheme a rest
    | .file => readFile scheme rest
    | .other => readOther scheme rest

end CloudLookup.Url
