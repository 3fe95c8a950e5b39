import CloudLookup.Http.Message
import CloudLookup.Text.Blank
import CloudLookup.Text.Numeral

/-! Requests and responses as bytes on a connection that carries one of each. -/
namespace CloudLookup.Http

def lineEnd : List Char := ['\r', '\n']

def portOf (url : Url) : Option Nat := do
  let authority ← url.authority
  authority.port.orElse fun _ => Url.defaultPort? url.scheme

def hostText (url : Url) : List Char :=
  match url.authority with
  | some authority => { authority with username := [], password := [] }.render
  | none => []

/-- The bytes of a request. The connection is closed after the response. -/
def Request.wire (r : Request) : List UInt8 :=
  let line (name value : List Char) : List Char := name ++ ':' :: ' ' :: value ++ lineEnd
  let given := r.headers.flatMap fun (name, value) => line name.toList value.toList
  let head := r.method.toList ++ ' ' :: r.url.target ++ " HTTP/1.1".toList ++ lineEnd ++
    line "host".toList (hostText r.url) ++ given ++
    line "content-length".toList (Text.decimal r.body.length) ++
    line "connection".toList "close".toList ++ lineEnd
  Text.utf8 head ++ r.body

def charsOfBytes (bytes : List UInt8) : List Char := bytes.map fun b => Char.ofNat b.toNat

def bytesOfChars (s : List Char) : List UInt8 := s.map fun c => UInt8.ofNat c.toNat

def hexNumber? (digits : List Char) : Option Nat :=
  if digits.isEmpty then none
  else digits.foldlM (fun n c => (Url.hexValue? c).map (16 * n + ·)) 0

/-- The body in chunks, each after a line with its size. A chunk of no size is the last. -/
def ofChunks? (s : List Char) : Option (List Char) :=
  match _h : Text.splitAt? lineEnd s with
  | none => none
  | some (line, rest) => do
    let size ← hexNumber? (line.takeWhile fun c => c ≠ ';' && c ≠ ' ')
    if size = 0 then some []
    else if rest.length < size then none
    else
      let more ← ofChunks? (rest.drop (size + lineEnd.length))
      some (rest.take size ++ more)
termination_by s.length
decreasing_by
  rw [Text.length_of_splitAt? _h, List.length_drop, lineEnd, List.length_cons]
  omega

def headerOf? (line : List Char) : Option (String × List Char) :=
  (Text.splitFirst ':' line).map fun (name, value) =>
    (String.ofList (name.map Char.toLower), Text.trimOf (fun c => c = ' ' || c = '\t') value)

def statusOf? (line : List Char) : Option Nat := do
  let rest ← Text.strip? "HTTP/1.".toList line
  let (_, rest) ← Text.splitFirst ' ' rest
  Text.digits? (rest.takeWhile (· ≠ ' '))

def lines (s : List Char) : List (List Char) :=
  (Text.fields '\n' s).map fun line => if line.getLast? = some '\r' then line.dropLast else line

def bodyOf? (headers : List (String × List Char)) (s : List Char) : Option (List Char) :=
  if headers.lookup "transfer-encoding" = some "chunked".toList then ofChunks? s
  else
    match headers.lookup "content-length" with
    | none => some s
    | some size => do
      let size ← Text.digits? size
      if s.length < size then none else some (s.take size)

def Response.ofWire? (bytes : List UInt8) : Option Response := do
  let (head, rest) ← Text.splitAt? (lineEnd ++ lineEnd) (charsOfBytes bytes)
  match lines head with
  | [] => none
  | first :: others =>
    let status ← statusOf? first
    if isBodiless status then some ⟨status, []⟩
    else
      let body ← bodyOf? (others.filterMap headerOf?) rest
      some ⟨status, bytesOfChars body⟩

end CloudLookup.Http
