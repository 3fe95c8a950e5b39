import CloudLookup.Url.Percent
import CloudLookup.Text.Fields

/-! Forms: names and values written as one text. -/
namespace CloudLookup.Url.Form

def isPlain (c : Char) : Bool := c.isAlphanum || c = '*' || c = '-' || c = '.' || c = '_'

def encodeText (s : List Char) : List Char :=
  s.flatMap fun c => if c = ' ' then ['+'] else if isPlain c then [c] else percentChar c

def encode (pairs : List (String × String)) : List Char :=
  Text.join ['&'] (pairs.map fun (name, value) =>
    encodeText name.toList ++ '=' :: encodeText value.toList)

def decodeText (s : List Char) : String :=
  String.ofList (Text.ofUtf8Lossy (percentDecode (s.map fun c => if c = '+' then ' ' else c)))

/-- The names and values of a form. Empty parts do not count. -/
def decode (s : List Char) : List (String × String) :=
  ((Text.fields '&' s).filter fun part => !part.isEmpty).map fun part =>
    let (name, value) := (Text.splitFirst '=' part).getD (part, [])
    (decodeText name, decodeText value)

end CloudLookup.Url.Form
