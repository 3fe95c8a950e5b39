import CloudLookup.Url.Parser

/-! Adding segments to the path of an address. -/
namespace CloudLookup.Url

/-- Drops an empty segment from the end of a path, and the only one of a root. -/
def dropEmptyEnd (parts : List (List Char)) : List (List Char) :=
  let parts := if 1 < parts.length ∧ parts.getLast? = some [] then parts.dropLast else parts
  if parts = [[]] then [] else parts

/-- Adds one segment, percent encoded. A dot or two dots add nothing. -/
def appendSegment (kind : Kind) (parts : List (List Char)) (segment : List Char) :
    List (List Char) :=
  if segment = ['.'] ∨ segment = ['.', '.'] then parts
  else
    let set := if kind.isSpecial then inSpecialSegmentSet else inSegmentSet
    let shown := segment.filter fun c => !(c = '\t' || c = '\n' || c = '\r')
    addSegment kind parts (percentEncode set shown) true

def extend? (u : Url) (segments : List (List Char)) : Option Url :=
  match u.path with
  | .text _ => none
  | .segments parts =>
    let parts := segments.foldl (appendSegment (kindOf u.scheme)) (dropEmptyEnd parts)
    some { u with path := .segments parts }

end CloudLookup.Url
