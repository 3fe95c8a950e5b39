/-! UTF-8: the bytes of a text, and the text of bytes that may be ill-formed. -/
namespace CloudLookup.Text

def utf8 (s : List Char) : List UInt8 := s.flatMap String.utf8EncodeChar

theorem utf8_cons (c : Char) (s : List Char) :
    utf8 (c :: s) = String.utf8EncodeChar c ++ utf8 s :=
  List.flatMap_cons

def utf8Length : List Char → Nat
  | [] => 0
  | c :: s => c.utf8Size + utf8Length s

namespace Utf8

def isTail (b : UInt8) : Bool := 0x80 ≤ b && b ≤ 0xBF

def payload (b : UInt8) : Nat := b.toNat % 64

/-- The least and greatest second byte admitted after `a`, the first byte of a character of three
or four bytes. They leave out surrogates, overlong forms and numbers above the last code point. -/
def secondByte (a : UInt8) : UInt8 × UInt8 :=
  if a == 0xE0 then (0xA0, 0xBF)
  else if a == 0xED then (0x80, 0x9F)
  else if a == 0xF0 then (0x90, 0xBF)
  else if a == 0xF4 then (0x80, 0x8F)
  else (0x80, 0xBF)

/-- The character that the bytes `a :: s` start with and the bytes after it, or nothing and the
bytes after the longest start of a character that could not be completed. -/
def next (a : UInt8) (s : List UInt8) : Option Char × List UInt8 :=
  if a < 0x80 then (some (Char.ofNat a.toNat), s)
  else if 0xC2 ≤ a && a ≤ 0xDF then
    match s with
    | b :: r =>
      if isTail b then (some (Char.ofNat (a.toNat % 32 * 64 + payload b)), r) else (none, s)
    | [] => (none, [])
  else if 0xE0 ≤ a && a ≤ 0xF4 then
    match s with
    | b :: r =>
      if (secondByte a).1 ≤ b && b ≤ (secondByte a).2 then
        match r with
        | c :: r' =>
          if !isTail c then (none, r)
          else if a < 0xF0 then
            (some (Char.ofNat ((a.toNat % 16 * 64 + payload b) * 64 + payload c)), r')
          else
            match r' with
            | d :: r'' =>
              if isTail d then
                (some (Char.ofNat
                  (((a.toNat % 8 * 64 + payload b) * 64 + payload c) * 64 + payload d)), r'')
              else (none, r')
            | [] => (none, [])
        | [] => (none, [])
      else (none, s)
    | [] => (none, [])
  else (none, s)

theorem next_length_le (a : UInt8) (s : List UInt8) : (next a s).2.length ≤ s.length := by
  unfold next
  repeat' split
  all_goals simp only [List.length_cons, List.length_nil] at *
  all_goals omega

def parts : List UInt8 → List (Option Char)
  | [] => []
  | a :: s => (next a s).1 :: parts (next a s).2
termination_by s => s.length
decreasing_by have := next_length_le a s; simp only [List.length_cons]; omega

end Utf8

def ofUtf8? (bytes : List UInt8) : Option (List Char) := (Utf8.parts bytes).mapM id

def ofUtf8Lossy (bytes : List UInt8) : List Char :=
  (Utf8.parts bytes).map fun c => c.getD (Char.ofNat 0xFFFD)

end CloudLookup.Text
