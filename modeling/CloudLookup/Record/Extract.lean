import CloudLookup.Json.Basic
import CloudLookup.Record.Path

/-! Walking records along paths. -/
namespace CloudLookup.Record

def follow : Step → Json → Option Json
  | .index n, .array items => items[n]?
  | .index n, .object members => Json.Members.get? members (String.ofList (Text.decimal n))
  | .key name, .object members => Json.Members.get? members name
  | .key name, .array items => (Text.unsigned? name.toList).bind fun n => items[n]?
  | _, _ => none

def walk : List Step → Json → Option Json
  | [], value => some value
  | step :: steps, value => (follow step value).bind (walk steps)

/-- The value at a path. A member whose name is the whole path comes first; a path without steps
leads nowhere. -/
def extract (record : Json) (path : String) : Option Json :=
  match record.member? path with
  | some value => some value
  | none =>
    match steps path.toList with
    | [] => none
    | step :: rest => walk (step :: rest) record

def candidates : Json → List String
  | .object members => members.map Prod.fst
  | .array items => (List.range items.length).map fun n => String.ofList (Text.decimal n)
  | _ => []

end CloudLookup.Record
