import CloudLookup.Text.Pattern
import CloudLookup.Text.Word
import CloudLookup.Text.Fields

/-! The two shapes of references: `aws:resource:key:property` and
`aws:resource:kind:key:property`. -/
namespace CloudLookup.Reference

open Text

def isKeyChar (c : Char) : Bool := isWord c || c == '-' || c == '.'

def isPropertyChar (c : Char) : Bool := isWord c || c == '-' || c == '.' || c == '[' || c == ']'

inductive Shape where
  | standard
  | subService
  deriving DecidableEq, Repr

def Shape.pattern : Shape → Pattern
  | standard =>
    Pattern.literal "aws:" ++ [.run isWord, .one ':', .run isKeyChar, .one ':', .run isPropertyChar]
  | subService =>
    Pattern.literal "aws:" ++ [.run isWord, .one ':', .run isWord, .one ':', .run isKeyChar,
      .one ':', .run isPropertyChar]

def shape? (s : List Char) : Option Shape :=
  if Shape.standard.pattern.accepts s then some .standard
  else if Shape.subService.pattern.accepts s then some .subService
  else none

/-- The text claims to be a reference; it may still be malformed. -/
def isClaimed (s : String) : Bool := (strip? "aws:".toList s.toList).isSome

end CloudLookup.Reference
