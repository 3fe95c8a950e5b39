import CloudLookup.Json.Fault
import CloudLookup.Text.Taken

/-! Readers of the parts of a JSON text. -/
namespace CloudLookup.Json

open Text (Rest Taken)

abbrev Reader (α : Type) := (s : List Char) → Except Fault (Taken α s)

/-- What a reader accepts beyond the values that can be represented. -/
structure Rules where
  /-- An escaped half of a surrogate pair stands for the replacement character. -/
  loneSurrogates : Bool
  /-- A number beyond the floating point range stands for zero. -/
  hugeNumbers : Bool

def strict : Rules := ⟨false, false⟩

/-- All well-formed text, for a value that is not looked at. -/
def lenient : Rules := ⟨true, true⟩

def isBlank (c : Char) : Bool := c = ' ' || c = '\t' || c = '\n' || c = '\r'

def skipBlank (s : List Char) : List Char := s.dropWhile isBlank

theorem length_skipBlank_le (s : List Char) : (skipBlank s).length ≤ s.length :=
  Text.length_dropWhile_le isBlank s

def readLetters : List Char → (s : List Char) → Except Fault (Rest s)
  | [], s => .ok (.all s)
  | _ :: _, [] => .error (.at .endInValue [] 0)
  | letter :: letters, c :: s =>
    if c = letter then
      (readLetters letters s).map fun ⟨r, h⟩ => ⟨r, Nat.le_succ_of_le h⟩
    else .error (.at .literalMisspelt (c :: s) 1)

end CloudLookup.Json
