/-! Base 64: three bytes written as four letters. -/
namespace CloudLookup.Text

def base64Letters : List Char :=
  "ABCDEFGHIJKLMNOPQRSTUVWXYZabcdefghijklmnopqrstuvwxyz0123456789+/".toList

def base64Letter (n place : Nat) : Char := base64Letters.getD (n >>> place % 64) '='

/-- Bytes in base 64. Equals signs stand for what the last three bytes lack. -/
def base64 : List UInt8 → List Char
  | [] => []
  | [a] =>
    let n := a.toNat <<< 16
    [base64Letter n 18, base64Letter n 12, '=', '=']
  | [a, b] =>
    let n := a.toNat <<< 16 + b.toNat <<< 8
    [base64Letter n 18, base64Letter n 12, base64Letter n 6, '=']
  | a :: b :: c :: s =>
    let n := a.toNat <<< 16 + b.toNat <<< 8 + c.toNat
    base64Letter n 18 :: base64Letter n 12 :: base64Letter n 6 :: base64Letter n 0 :: base64 s

end CloudLookup.Text
