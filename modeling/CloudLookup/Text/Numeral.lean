/-! Decimal numerals of 64-bit integers. -/
namespace CloudLookup.Text

def digitValue (c : Char) : Nat := c.toNat - '0'.toNat

def numberOf (digits : List Char) : Nat := digits.foldl (fun n c => 10 * n + digitValue c) 0

def digits? (s : List Char) : Option Nat :=
  if s.isEmpty || !s.all Char.isDigit then none else some (numberOf s)

/-- Reads a numeral below 2 ^ 64, which may have a plus sign. -/
def unsigned? (s : List Char) : Option Nat :=
  let body := match s with
    | '+' :: rest => rest
    | _ => s
  (digits? body).filter (· < 0x10000000000000000)

/-- Reads a numeral from - 2 ^ 63 to 2 ^ 63 - 1, which may have a sign. -/
def signed? (s : List Char) : Option Int :=
  match s with
  | '-' :: rest => ((digits? rest).filter (· ≤ 0x8000000000000000)).map fun n => - Int.ofNat n
  | '+' :: rest => ((digits? rest).filter (· < 0x8000000000000000)).map Int.ofNat
  | _ => ((digits? s).filter (· < 0x8000000000000000)).map Int.ofNat

def decimal (n : Nat) : List Char := Nat.toDigits 10 n

end CloudLookup.Text
