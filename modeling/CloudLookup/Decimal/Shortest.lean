import CloudLookup.Decimal.Binary64

/-! The shortest decimal digits that read back as a binary number, and their layout. -/
namespace CloudLookup.Decimal

/-- The fraction `num / den` lies among the reals that round to `x`. -/
def roundsTo (x : Binary64) (num den : Nat) : Bool :=
  -- The neighbours' midpoints, in units of a quarter of the last place.
  let low := if x.mantissa = 0x10000000000000 && Binary64.minExponent < x.exponent then
      4 * x.mantissa - 1 else 4 * x.mantissa - 2
  let high := 4 * x.mantissa + 2
  let (n, d) := Binary64.scaled num den (2 - x.exponent)
  if x.mantissa % 2 = 0 then low * d ≤ n && n ≤ high * d else low * d < n && n < high * d

/-- The distance of two fractions, as a fraction over the product of the denominators. -/
def distance (a b c d : Nat) : Nat := (a * d - c * b) + (c * b - a * d)

def decimalFraction (digits : Nat) (exponent : Int) : Nat × Nat :=
  if 0 ≤ exponent then (digits * Nat.pow 10 exponent.toNat, 1)
  else (digits, Nat.pow 10 (-exponent).toNat)

/-- The neighbours of `x` on the grid of multiples of `10 ^ exponent` that round to `x`: the nearer
one, or the even one of two at the same distance. -/
def onGrid (x : Binary64) (exponent : Int) : Option Nat :=
  let (a, b) := x.fraction
  let (c, d) := decimalFraction 1 exponent
  let below := a * d / (b * c)
  let fits (k : Nat) : Bool :=
    let (n, m) := decimalFraction k exponent
    roundsTo x n m
  let gap (k : Nat) : Nat :=
    let (n, m) := decimalFraction k exponent
    distance n m a b
  match fits below, fits (below + 1) with
  | true, true =>
    if gap below < gap (below + 1) then some below
    else if gap (below + 1) < gap below then some (below + 1)
    else some (below + below % 2)
  | true, false => some below
  | false, true => some (below + 1)
  | false, false => none

def leadingPlace (num den : Nat) : Int :=
  if den ≤ num then (Nat.toDigits 10 (num / den)).length - 1
  else -((Nat.toDigits 10 ((den - 1) / num)).length : Int)

/-- Decimal digits, the last not zero, and the power of ten of the last. -/
structure Digits where
  digits : Nat
  exponent : Int

def Digits.normalize (d : Digits) : Nat → Digits
  | 0 => d
  | steps + 1 =>
    if d.digits ≠ 0 ∧ d.digits % 10 = 0 then
      Digits.normalize ⟨d.digits / 10, d.exponent + 1⟩ steps
    else d

/-- The fewest digits that read back as the magnitude of `x`, the nearest of those. Seventeen
digits always suffice. -/
def shortest (x : Binary64) : Digits :=
  if x.mantissa = 0 then ⟨0, 0⟩
  else
    let (num, den) := x.fraction
    let top := leadingPlace num den
    let found := (List.range 17).findSome? fun (k : Nat) =>
      (onGrid x (top - k)).map fun digits => (⟨digits, top - k⟩ : Digits)
    (found.getD ⟨0, 0⟩).normalize 20

structure Layout where
  /-- The least exponent of the first digit that is written with leading zeros. -/
  leastPositional : Int
  /-- The greatest exponent of the first digit that is written without an exponent. -/
  greatestPositional : Int
  wholeSuffix : String
  exponentMark : String
  negativeExponentMark : String

def write (n : Layout) (x : Binary64) : List Char :=
  let d := shortest x
  let text := Nat.toDigits 10 d.digits
  let first : Int := d.exponent + (text.length - 1)
  let sign := if x.negative then ['-'] else []
  let body :=
    if n.leastPositional ≤ first ∧ first ≤ n.greatestPositional then
      if 0 ≤ d.exponent then
        text ++ List.replicate d.exponent.toNat '0' ++ n.wholeSuffix.toList
      else if 0 ≤ first then
        text.take (first.toNat + 1) ++ '.' :: text.drop (first.toNat + 1)
      else
        '0' :: '.' :: List.replicate (-first - 1).toNat '0' ++ text
    else
      let mantissa := match text with
        | [_] => text
        | c :: rest => c :: '.' :: rest
        | [] => []
      let mark := if first < 0 then n.negativeExponentMark else n.exponentMark
      mantissa ++ mark.toList ++ Nat.toDigits 10 first.natAbs
  sign ++ body

end CloudLookup.Decimal
