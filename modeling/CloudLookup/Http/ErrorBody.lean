import CloudLookup.Error
import CloudLookup.Json.Reader
import CloudLookup.Text.Blank
import CloudLookup.Text.Boundary
import CloudLookup.Text.Fields
import CloudLookup.Text.Numeral

/-! The bodies of answers with an error. -/
namespace CloudLookup

namespace ApiError

def firstText? (body : Json) (names : List String) : Option String :=
  names.findSome? fun name => (body.member? name).bind Json.text?

def element? (name : String) (body : List Char) : Option String := do
  let (_, after) ← Text.splitAt? ('<' :: name.toList ++ ['>']) body
  let (content, _) ← Text.splitAt? ('<' :: '/' :: name.toList ++ ['>']) after
  some (Text.trim (String.ofList content))

/-- The error that a body, in JSON or XML, tells of. A code in JSON may have a namespace before a
hash. -/
def ofBody (status : Nat) (body : List Char) : ApiError :=
  match Json.parse body with
  | .ok json =>
    { status
      code := (firstText? json ["__type", "code", "Code"]).map fun code =>
        String.ofList (Text.afterLast '#' code.toList)
      message := firstText? json ["message", "Message"] }
  | .error _ => { status, code := element? "Code" body, message := element? "Message" body }

end ApiError

def maxLoggedBytes : Nat := 200

def isPlain (c : Char) : Bool := ' ' ≤ c && c ≤ '~'

def cutNote (length : Nat) : List Char :=
  "... [truncated, ".toList ++ Text.decimal length ++ " bytes total]".toList

/-- A body as it is logged: cut, and without characters that are not plain. -/
def loggedBody (body : List Char) : List Char :=
  let length := Text.utf8Length body
  let shown :=
    if length ≤ maxLoggedBytes then body else Text.cut maxLoggedBytes body ++ cutNote length
  shown.filter isPlain

end CloudLookup
