import CloudLookup.Text.Utf8

/-! Why and where a text is not JSON. -/
namespace CloudLookup.Json

inductive Flaw where
  | endInArray
  | endInObject
  | endInString
  | endInValue
  | colonMissing
  | arraySeparatorMissing
  | objectSeparatorMissing
  | literalMisspelt
  | valueMissing
  | invalidEscape
  | invalidNumber
  | numberOutOfRange
  | controlCharacter
  | nameMissing
  | loneSurrogate
  | trailingComma
  | trailingCharacters
  | unfinishedSurrogatePair
  | tooDeep
  deriving DecidableEq, Repr

def Flaw.message : Flaw → String
  | endInArray => "EOF while parsing a list"
  | endInObject => "EOF while parsing an object"
  | endInString => "EOF while parsing a string"
  | endInValue => "EOF while parsing a value"
  | colonMissing => "expected `:`"
  | arraySeparatorMissing => "expected `,` or `]`"
  | objectSeparatorMissing => "expected `,` or `\x7d`"
  | literalMisspelt => "expected ident"
  | valueMissing => "expected value"
  | invalidEscape => "invalid escape"
  | invalidNumber => "invalid number"
  | numberOutOfRange => "number out of range"
  | controlCharacter => "control character (\\u0000-\\u001F) found while parsing a string"
  | nameMissing => "key must be a string"
  | loneSurrogate => "lone leading surrogate in hex escape"
  | trailingComma => "trailing comma"
  | trailingCharacters => "trailing characters"
  | unfinishedSurrogatePair => "unexpected end of hex escape"
  | tooDeep => "recursion limit exceeded"

/-- A flaw and the number of bytes of the text after the point where it was met. -/
structure Fault where
  flaw : Flaw
  left : Nat
  deriving DecidableEq, Repr

/-- A flaw met after so many bytes of `rest`, or at its end if it has fewer. -/
def Fault.at (flaw : Flaw) (rest : List Char) (bytes : Nat) : Fault :=
  ⟨flaw, Text.utf8Length rest - bytes⟩

def position (text : List Char) (bytes : Nat) : Nat × Nat := go text bytes 1 0
where
  go : List Char → Nat → Nat → Nat → Nat × Nat
    | [], _, line, column => (line, column)
    | c :: rest, bytes, line, column =>
      if bytes < c.utf8Size then (line, column + bytes)
      else if c = '\n' then go rest (bytes - 1) (line + 1) 0
      else go rest (bytes - c.utf8Size) line (column + c.utf8Size)

def Fault.message (text : List Char) (fault : Fault) : String :=
  let (line, column) := position text (Text.utf8Length text - fault.left)
  s!"{fault.flaw.message} at line {line} column {column}"

end CloudLookup.Json
