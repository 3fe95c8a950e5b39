/-! Patterns of literal characters and runs of character classes, matched against a whole text. -/
namespace CloudLookup.Text

inductive Piece where
  | one (c : Char)
  | run (kind : Char → Bool)

abbrev Pattern := List Piece

def Pattern.literal (s : String) : Pattern := s.toList.map .one

def Pattern.accepts : Pattern → List Char → Bool
  | [], [] => true
  | [], _ :: _ => false
  | _ :: _, [] => false
  | .one c :: pattern, x :: s => x == c && accepts pattern s
  | .run kind :: pattern, x :: s =>
    kind x && (accepts pattern s || accepts (.run kind :: pattern) s)
termination_by structural _ s => s

end CloudLookup.Text
