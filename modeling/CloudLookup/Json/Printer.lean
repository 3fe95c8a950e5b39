import CloudLookup.Json.Basic
import CloudLookup.Decimal.Shortest

/-! The compact text of a JSON value. -/
namespace CloudLookup.Json

/-- Floating point numbers always have a point or an exponent, and one of the two only below 10 ^ -5
and from 10 ^ 16 on. -/
def numberLayout : Decimal.Layout := ⟨-5, 15, ".0", "e+", "e-"⟩

def Number.print : Number → List Char
  | integer n => if n < 0 then '-' :: Nat.toDigits 10 n.natAbs else Nat.toDigits 10 n.natAbs
  | float x => Decimal.write numberLayout x

def hexDigit (n : Nat) : Char := Nat.digitChar n

/-- A character within quotes: controls, quotes and backslashes are escaped. -/
def printChar (c : Char) : List Char :=
  if c = '"' then ['\\', '"']
  else if c = '\\' then ['\\', '\\']
  else if c = '\x08' then ['\\', 'b']
  else if c = '\x0C' then ['\\', 'f']
  else if c = '\n' then ['\\', 'n']
  else if c = '\r' then ['\\', 'r']
  else if c = '\t' then ['\\', 't']
  else if c.toNat < 32 then ['\\', 'u', '0', '0', hexDigit (c.toNat / 16), hexDigit (c.toNat % 16)]
  else [c]

def quote (s : List Char) : List Char := '"' :: s.flatMap printChar ++ ['"']

mutual

def print : Json → List Char
  | null => ['n', 'u', 'l', 'l']
  | bool true => ['t', 'r', 'u', 'e']
  | bool false => ['f', 'a', 'l', 's', 'e']
  | number n => n.print
  | string s => quote s.toList
  | array [] => ['[', ']']
  | array (item :: items) => '[' :: print item ++ printItems items
  | object [] => ['\x7b', '\x7d']
  | object ((name, value) :: members) =>
    '\x7b' :: quote name.toList ++ ':' :: print value ++ printMembers members

/-- The text of an array after its first item. -/
def printItems : List Json → List Char
  | [] => [']']
  | item :: items => ',' :: print item ++ printItems items

/-- The text of an object after its first member. -/
def printMembers : List (String × Json) → List Char
  | [] => ['\x7d']
  | (name, value) :: members =>
    ',' :: quote name.toList ++ ':' :: print value ++ printMembers members

end

def compact (value : Json) : String := String.ofList (print value)

end CloudLookup.Json
