/-! What readers take from the front of a text. -/
namespace CloudLookup.Text

/-- A value read from the front of `s` and the shorter text after it. -/
structure Taken (α : Type) (s : List Char) where
  value : α
  rest : List Char
  shorter : rest.length < s.length

namespace Taken

def map {s : List Char} (f : α → β) (t : Taken α s) : Taken β s := ⟨f t.value, t.rest, t.shorter⟩

def within {s r : List Char} (t : Taken α r) (h : r.length ≤ s.length) : Taken α s :=
  ⟨t.value, t.rest, Nat.lt_of_lt_of_le t.shorter h⟩

end Taken

abbrev Rest (s : List Char) := { r : List Char // r.length ≤ s.length }

def Rest.all (s : List Char) : Rest s := ⟨s, Nat.le_refl _⟩

def Rest.cons (c : Char) {s : List Char} (r : Rest s) : Rest (c :: s) :=
  ⟨r.val, Nat.le_succ_of_le r.property⟩

def Taken.left {s : List Char} (t : Taken α s) : Rest s := ⟨t.rest, Nat.le_of_lt t.shorter⟩

theorem length_dropWhile_le (p : Char → Bool) (s : List Char) :
    (s.dropWhile p).length ≤ s.length :=
  (List.dropWhile_sublist p).length_le

end CloudLookup.Text
