import CloudLookup.Text.Fields
import CloudLookup.Text.Numeral
import CloudLookup.Url.Percent

/-! Internet addresses as hosts. -/
namespace CloudLookup.Url

def numberIn (base : Nat) (digits : List Char) : Nat :=
  digits.foldl (fun n c => base * n + (hexValue? c).getD 0) 0

/-- One number of a version 4 address: decimal, octal after a zero, hexadecimal after `0x`. -/
def ipv4Number? (s : List Char) : Option Nat :=
  let read (base : Nat) (digits : List Char) : Option Nat :=
    if digits.all fun c => (hexValue? c).any (· < base) then some (numberIn base digits) else none
  match s with
  | [] => none
  | '0' :: 'x' :: digits => read 16 digits
  | '0' :: 'X' :: digits => read 16 digits
  | '0' :: d :: digits => read 8 (d :: digits)
  | digits => read 10 digits

def hostParts (s : List Char) : List (List Char) :=
  let parts := Text.fields '.' s
  if parts.getLast? = some [] then parts.dropLast else parts

def endsInNumber (s : List Char) : Bool :=
  match (hostParts s).getLast? with
  | none => false
  | some last => (!last.isEmpty && last.all Char.isDigit) || (ipv4Number? last).isSome

/-- The version 4 address that a host denotes. All numbers but the last count for one byte. -/
def ipv4? (s : List Char) : Option Nat := do
  let numbers ← (hostParts s).mapM ipv4Number?
  let last ← numbers.getLast?
  let first := numbers.dropLast
  let limit := 1 <<< (8 * (4 - first.length))
  if 4 < numbers.length ∨ first.any (255 < ·) ∨ limit ≤ last then none
  else some (first.foldr (fun n (sum, unit) => (sum + n * unit, unit * 256))
    (last, limit) |>.1)

def ipv4Text (n : Nat) : List Char :=
  Text.join ['.'] ([24, 16, 8, 0].map fun place => Text.decimal (n >>> place % 256))

/-- One byte of a version 4 address at the end of a version 6 address: no zeros before it. -/
def ipv4Byte? (s : List Char) : Option Nat :=
  match s with
  | [] => none
  | '0' :: _ :: _ => none
  | _ =>
    if s.all Char.isDigit then some (numberIn 10 s) |>.filter (· ≤ 255) else none

/-- The pieces of 16 bits of one part of a version 6 address. Only the last part may be a version 4
address. -/
def ipv6Part? (isLast : Bool) (s : List Char) : Option (List Nat) :=
  if s.contains '.' then
    if !isLast then none
    else
      match (Text.fields '.' s).mapM ipv4Byte? with
      | some [a, b, c, d] => some [256 * a + b, 256 * c + d]
      | _ => none
  else if s.isEmpty || 4 < s.length || !s.all (fun c => (hexValue? c).isSome) then none
  else some [numberIn 16 s]

def ipv6Pieces? (isLast : Bool) (s : List Char) : Option (List Nat) :=
  if s.isEmpty then some []
  else
    let parts := Text.fields ':' s
    let last := parts.length - 1
    (parts.zipIdx.mapM fun (part, i) => ipv6Part? (isLast && i = last) part).map List.flatten

/-- The eight pieces that a version 6 address denotes. Two colons stand for one or more zeros. -/
def ipv6? (s : List Char) : Option (List Nat) :=
  match Text.splitAt? [':', ':'] s with
  | none => (ipv6Pieces? true s).filter fun pieces => pieces.length = 8
  | some (front, back) => do
    let front ← ipv6Pieces? false front
    let back ← ipv6Pieces? true back
    if 7 < front.length + back.length then none
    else some (front ++ List.replicate (8 - front.length - back.length) 0 ++ back)

def longestZeros (pieces : List Nat) : Nat × Nat :=
  let run (start : Nat) : Nat := ((pieces.drop start).takeWhile (· = 0)).length
  (List.range pieces.length).foldl
    (fun best start => if best.2 < run start then (start, run start) else best) (0, 0)

/-- The text of a version 6 address: two colons stand for the first longest run of at least two
zeros. -/
def ipv6Text (pieces : List Nat) : List Char :=
  let text (ps : List Nat) : List Char := Text.join [':'] (ps.map (Nat.toDigits 16))
  let (start, length) := longestZeros pieces
  if length < 2 then text pieces
  else text (pieces.take start) ++ [':', ':'] ++ text (pieces.drop (start + length))

end CloudLookup.Url
