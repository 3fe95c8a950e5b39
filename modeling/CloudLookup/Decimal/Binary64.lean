/-! Binary floating point numbers of 53 digits, computed exactly over the natural numbers. -/
namespace CloudLookup.Decimal

/-- The finite number `± mantissa * 2 ^ exponent`. Mantissas stay below 2 ^ 53; below 2 ^ 52 only
with the least exponent, -1074. Zero keeps its sign. -/
structure Binary64 where
  negative : Bool
  mantissa : Nat
  exponent : Int
  deriving DecidableEq, Repr

namespace Binary64

def minExponent : Int := -1074

def maxExponent : Int := 971

def zero : Binary64 := ⟨false, 0, minExponent⟩

def withSign (negative : Bool) (x : Binary64) : Binary64 := { x with negative := negative }

def scaled (num den : Nat) (exponent : Int) : Nat × Nat :=
  if 0 ≤ exponent then (num <<< exponent.toNat, den) else (num, den <<< (-exponent).toNat)

/-- The quotient rounded to the nearest number, a half to the even one. -/
def roundQuotient (num den : Nat) : Nat :=
  let q := num / den
  let r := num % den
  if 2 * r < den then q
  else if den < 2 * r then q + 1
  else q + q % 2

/-- The exponent at which `num / den` has 53 binary digits, or the least one. -/
def exponentOf (num den : Nat) : Int :=
  let guess : Int := (Nat.log2 num : Int) - Nat.log2 den - 52
  let (n, d) := scaled num den (-guess)
  max minExponent (if n / d < 0x10000000000000 then guess - 1 else guess)

/-- The number nearest to the fraction `num / den`, a tie going to the even mantissa; nothing when
it is beyond the greatest number. -/
def ofFraction (num den : Nat) : Option Binary64 :=
  if num = 0 then some zero
  else
    let e := exponentOf num den
    let (n, d) := scaled num den (-e)
    let m := roundQuotient n d
    let (m, e) := if m = 0x20000000000000 then (0x10000000000000, e + 1) else (m, e)
    if maxExponent < e then none else some ⟨false, m, e⟩

def fraction (x : Binary64) : Nat × Nat := scaled x.mantissa 1 x.exponent

def mul (x y : Binary64) : Option Binary64 :=
  let (a, b) := x.fraction
  let (c, d) := y.fraction
  ofFraction (a * c) (b * d)

def div (x y : Binary64) : Option Binary64 :=
  let (a, b) := x.fraction
  let (c, d) := y.fraction
  ofFraction (a * d) (b * c)

def powerOfTen (k : Nat) : Option Binary64 := ofFraction (Nat.pow 10 k) 1

def greatestPower : Nat := 308

/-- Multiplies or divides a magnitude by a power of ten, dividing in steps of the greatest power.
Nothing when the result is beyond the greatest number. -/
def shift (x : Binary64) (exponent : Int) : Option Binary64 :=
  if exponent.natAbs ≤ greatestPower then
    (powerOfTen exponent.natAbs).bind fun power =>
      if 0 ≤ exponent then x.mul power else x.div power
  else if x.mantissa = 0 then some x
  else if 0 ≤ exponent then none
  else
    ((powerOfTen greatestPower).bind fun power => x.div power).bind fun y =>
      shift y (exponent + greatestPower)
termination_by exponent.natAbs
decreasing_by simp only [greatestPower] at *; omega

/-- The number read from decimal digits `significand` times a power of ten: the significand is
rounded, then shifted by the rounded power of ten. -/
def ofDecimal (significand : Nat) (exponent : Int) : Option Binary64 :=
  (ofFraction significand 1).bind fun x => shift x exponent

end Binary64

end CloudLookup.Decimal
