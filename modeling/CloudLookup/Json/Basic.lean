import CloudLookup.Decimal.Binary64

/-! JSON values. The members of an object are kept in ascending order of their names. -/
namespace CloudLookup

/-- A JSON number: an integer of 64 bits, or a binary floating point number. -/
inductive Json.Number where
  | integer (n : Int)
  | float (x : Decimal.Binary64)
  deriving DecidableEq

inductive Json where
  | null
  | bool (b : Bool)
  | number (n : Json.Number)
  | string (s : String)
  | array (items : List Json)
  | object (members : List (String × Json))

/-- Named values in ascending order of their names. -/
abbrev Json.Members := List (String × Json)

namespace Json

namespace Members

/-- Adds a member at its place in the order, or replaces the value of that name. -/
def insert (name : String) (value : Json) : Members → Members
  | [] => [(name, value)]
  | (k, v) :: rest =>
    if name < k then (name, value) :: (k, v) :: rest
    else if name = k then (name, value) :: rest
    else (k, v) :: insert name value rest

/-- The members of a list of named values; of several of one name the last counts. -/
def ofList (pairs : List (String × Json)) : Members :=
  pairs.foldl (fun members (name, value) => members.insert name value) []

def get? (members : Members) (name : String) : Option Json := List.lookup name members

end Members

def single (name : String) (value : Json) : Json := object [(name, value)]

def member? (name : String) : Json → Option Json
  | object members => Members.get? members name
  | _ => none

def text? : Json → Option String
  | string s => some s
  | _ => none

def isNull : Json → Bool
  | null => true
  | _ => false

end Json

end CloudLookup
