import CloudLookup.Signature.Location
import CloudLookup.Signature.Sha256
import CloudLookup.Url.Form

/-! The canonical form of a request, which a signature covers. -/
namespace CloudLookup.Signature

def isUnreserved (c : Char) : Bool :=
  c.isAlphanum || c = '-' || c = '_' || c = '.' || c = '~'

abbrev Headers := List (List Char × List Char)

/-- A header's value: spaces at the ends are dropped, runs of spaces become one. -/
def squeeze (value : List Char) : List Char :=
  let isWord (s : List Char) : Bool := !s.isEmpty
  Text.join [' '] ((Text.fields ' ' value).filter isWord)

def isValueChar (c : Char) : Bool := (' ' ≤ c && c.toNat ≠ 0x7F) || c = '\t'

def isNameChar (c : Char) : Bool := c.isAlphanum || "!#$%&'*+-.^_\x60|~".toList.contains c

def lowerName (name : List Char) : List Char :=
  name.map fun c => if c = '\u212A' then 'k' else c.toLower

def normalizeHeaders? (headers : List (String × String)) : Option Headers :=
  headers.mapM fun (name, value) =>
    let name := lowerName name.toList
    let value := squeeze value.toList
    if !name.isEmpty && name.all isNameChar && value.all isValueChar then some (name, value)
    else none

def setHeader (name : String) (value : List Char) (headers : Headers) : Headers :=
  headers.filter (fun h => h.1 ≠ name.toList) ++ [(name.toList, value)]

/-- The headers that proxies may change, which are not signed. -/
def unsignedNames : List String :=
  ["authorization", "user-agent", "x-amzn-trace-id", "transfer-encoding"]

def textLe (a b : List Char) : Bool := !decide (b < a)

def signedNames (headers : Headers) : List (List Char) :=
  let isSigned (name : List Char) : Bool := !unsignedNames.contains (String.ofList name)
  ((headers.map Prod.fst).filter isSigned).eraseDups.mergeSort textLe

def valuesOf (headers : Headers) (name : List Char) : List (List Char) :=
  (headers.filter fun h => h.1 = name).map Prod.snd

def normalizePath (path : List Char) : List Char :=
  let path := if path.head? = some '/' then path else '/' :: path
  let segments := Text.fields '/' path
  let step (kept : List (List Char)) (segment : List Char) : List (List Char) :=
    if segment = [] ∨ segment = ['.'] then kept
    else if segment = ['.', '.'] then kept.dropLast
    else kept ++ [segment]
  let kept := segments.foldl step []
  let last := segments.getLast?.getD []
  let endsOpen := last = [] ∨ last = ['.'] ∨ last = ['.', '.']
  '/' :: Text.join ['/'] kept ++ (if endsOpen ∧ kept ≠ [] then ['/'] else [])

def canonicalPath (path : List Char) : List Char :=
  Url.percentEncode (fun c => !(isUnreserved c || c = '/')) (normalizePath path)

def canonicalQuery (query : List Char) : List Char :=
  let pairs := (Url.Form.decode query).map fun (name, value) => (name.toList, value.toList)
  let le (a b : List Char × List Char) : Bool :=
    if a.1 = b.1 then textLe a.2 b.2 else textLe a.1 b.1
  let encode := Url.percentEncode fun c => !isUnreserved c
  Text.join ['&'] ((pairs.mergeSort le).map fun (name, value) => encode name ++ '=' :: encode value)

def canonicalRequest (method : String) (location : Location) (headers : Headers)
    (body : List UInt8) : List Char :=
  let names := signedNames headers
  let headerLines := names.flatMap fun name =>
    name ++ ':' :: Text.join [','] (valuesOf headers name) ++ ['\n']
  method.toList ++ '\n' :: canonicalPath location.path ++ '\n' :: canonicalQuery location.query ++
    '\n' :: headerLines ++ '\n' :: Text.join [';'] names ++ '\n' :: hex (sha256 body)

end CloudLookup.Signature
