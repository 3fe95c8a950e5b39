import CloudLookup.Text.Range

/-! White space: the characters with the Unicode property White_Space, and trimming. -/
namespace CloudLookup.Text

def blankRanges : List (Nat × Nat) :=
  [(0x9, 0xD), (0x20, 0x20), (0x85, 0x85), (0xA0, 0xA0), (0x1680, 0x1680), (0x2000, 0x200A),
   (0x2028, 0x2029), (0x202F, 0x202F), (0x205F, 0x205F), (0x3000, 0x3000)]

def isBlank (c : Char) : Bool := inRanges blankRanges c

def trimOf (drop : Char → Bool) (s : List Char) : List Char :=
  ((s.dropWhile drop).reverse.dropWhile drop).reverse

def trim (s : String) : String := String.ofList (trimOf isBlank s.toList)

def allBlank (s : String) : Bool := s.toList.all isBlank

end CloudLookup.Text
