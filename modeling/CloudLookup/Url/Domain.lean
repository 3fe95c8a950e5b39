import CloudLookup.Text.Composition
import CloudLookup.Text.Fields
import CloudLookup.Url.Domain.Direction
import CloudLookup.Url.Domain.Joining
import CloudLookup.Url.Domain.Punycode
import CloudLookup.Url.Domain.Refused
import CloudLookup.Url.Domain.Replaced

/-! Names of domains: their forms in ASCII and for readers. -/
namespace CloudLookup.Url.Domain

def isForbidden (c : Char) : Bool :=
  c.toNat ≤ 0x20 || c.toNat = 0x7F || "#%/:<>?@[\\]^|".toList.contains c

def isAscii (c : Char) : Bool := c.toNat < 128

def uniform? (c : Char) : Option (List Char) :=
  if isRefused c then none
  else if isIgnored c then some []
  else some ((replacement? c).getD [c])

def normalize? (name : List Char) : Option (List Char) :=
  (name.mapM uniform?).map fun parts => Text.compose parts.flatten

def codedMark : List Char := "xn--".toList

def isCoded (label : List Char) : Bool := (Text.strip? codedMark label).isSome

def readLabel? (label : List Char) : Option (List Char) :=
  match Text.strip? codedMark label with
  | none => some label
  | some code => do
    if 2000 < code.length ∨ !code.all isAscii then none
    let text ← ofPunycode? code
    if text.all isAscii ∨ isCoded text ∨ normalize? text ≠ some text then none else some text

/-- A part of a name for readers does not begin with a mark, and its joiners have something to
do. -/
def isLabel (label : List Char) : Bool := !label.head?.any Text.isMark && joinersFit [] label

def writeLabel? (label : List Char) : Option (List Char) :=
  if label.all isAscii then some label
  else if 1000 < label.length then none
  else some (codedMark ++ punycode label)

def codeName? (name : List Char) : Option (List Char) := do
  let labels ← (Text.fields '.' name).mapM readLabel?
  if !labels.all isLabel then none
  if isTwoWay labels.flatten ∧ !labels.all keepsDirection then none
  let written ← labels.mapM writeLabel?
  some (Text.join ['.'] written)

/-- The name of a domain in ASCII, with small letters. A name that is in ASCII already needs
nothing else. -/
def toAscii? (name : List Char) : Option (List Char) :=
  let small := name.map Char.toLower
  if small.all isAscii && !(Text.fields '.' small).any isCoded then
    if small.any isForbidden then none else some small
  else do
    let name ← normalize? name
    if name.any isForbidden then none else codeName? name

end CloudLookup.Url.Domain
