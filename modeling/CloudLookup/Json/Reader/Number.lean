import CloudLookup.Json.Basic
import CloudLookup.Json.Reader.Basic
import CloudLookup.Text.Numeral

/-! Reading numbers. -/
namespace CloudLookup.Json

open Text (Rest Taken)

/-- The digits of a number as they are written. A fraction or exponent that is absent has no
digits. -/
structure Numeral where
  negative : Bool
  whole : List Char
  fraction : List Char
  negativeExponent : Bool
  exponent : List Char

/-- Appends digits to a number while it stays below a limit, and counts the digits left over. -/
def absorb (limit : Nat) (n : Nat) : List Char → Nat × Nat
  | [] => (n, 0)
  | d :: ds =>
    if 10 * n + Text.digitValue d < limit then absorb limit (10 * n + Text.digitValue d) ds
    else (n, ds.length + 1)

namespace Numeral

/-- An integer of 64 bits when it fits, and the nearest floating point number otherwise. Minus zero
is a floating point number. -/
def integer (negative : Bool) (n : Nat) : Option Number :=
  if !negative then some (.integer n)
  else if 0 < n ∧ n ≤ 0x8000000000000000 then some (.integer (-(n : Int)))
  else (Decimal.Binary64.ofFraction n 1).map fun x => .float (x.withSign true)

/-- The number that is written. Digits beyond the first 2 ^ 64 only count as places. Nothing when it
is out of range, with the number of exponent digits that follow the one which made it so. -/
def value (n : Numeral) : Except Nat Number :=
  let (first, places) := absorb 0x10000000000000000 0 n.whole
  if n.fraction.isEmpty && n.exponent.isEmpty && places = 0 then
    match integer n.negative first with
    | some x => .ok x
    | none => .error 0
  else
    let (significand, unused) := absorb 0x10000000000000000 first n.fraction
    let scale : Int := places - (n.fraction.length - unused)
    let (exponent, unread) := absorb 0x80000000 0 n.exponent
    if unread ≠ 0 then
      if significand ≠ 0 ∧ !n.negativeExponent then .error (unread - 1)
      else .ok (.float (Decimal.Binary64.zero.withSign n.negative))
    else
      let exponent : Int := if n.negativeExponent then -exponent else exponent
      match Decimal.Binary64.ofDecimal significand (scale + exponent) with
      | some x => .ok (.float (x.withSign n.negative))
      | none => .error 0

end Numeral

def readDigits : Reader (List Char)
  | [] => .error (.at .endInValue [] 0)
  | c :: s =>
    if c.isDigit then
      .ok ⟨c :: s.takeWhile Char.isDigit, s.dropWhile Char.isDigit,
        Nat.lt_succ_of_le (Text.length_dropWhile_le _ s)⟩
    else .error (.at .invalidNumber (c :: s) 1)

/-- Reads the digits before the point: a zero stands alone. -/
def readWholePart (s : List Char) : Except Fault (Taken (List Char) s) :=
  match s with
  | '0' :: d :: rest =>
    if d.isDigit then .error (.at .invalidNumber (d :: rest) 1)
    else .ok ⟨['0'], d :: rest, Nat.lt_succ_self _⟩
  | s => readDigits s

def readFraction (s : List Char) : Except Fault (List Char × Rest s) :=
  match s with
  | '.' :: rest => (readDigits rest).map fun t => (t.value, t.left.cons '.')
  | s => .ok ([], .all s)

def readExponent (s : List Char) : Except Fault (Bool × List Char × Rest s) :=
  match s with
  | c :: rest =>
    if c = 'e' ∨ c = 'E' then
      match rest with
      | '-' :: rest => (readDigits rest).map fun t => (true, t.value, (t.left.cons '-').cons c)
      | '+' :: rest => (readDigits rest).map fun t => (false, t.value, (t.left.cons '+').cons c)
      | rest => (readDigits rest).map fun t => (false, t.value, t.left.cons c)
    else .ok (false, [], .all (c :: rest))
  | [] => .ok (false, [], .all [])

def readNumber (rules : Rules) (negative : Bool) : Reader Number := fun s => do
  let whole ← readWholePart s
  let (fraction, ⟨r, hr⟩) ← readFraction whole.rest
  let (negativeExponent, exponent, ⟨t, ht⟩) ← readExponent r
  have shorter : t.length < s.length := by have := whole.shorter; omega
  match (Numeral.mk negative whole.value fraction negativeExponent exponent).value with
  | .ok n => .ok ⟨n, t, shorter⟩
  | .error unread =>
    if rules.hugeNumbers then .ok ⟨.integer 0, t, shorter⟩
    else .error ⟨.numberOutOfRange, Text.utf8Length t + unread⟩

end CloudLookup.Json
