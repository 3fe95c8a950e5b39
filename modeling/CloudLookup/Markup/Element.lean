import CloudLookup.Json.Basic
import CloudLookup.Text.Numeral

/-! Elements and the values that they stand for. -/
namespace CloudLookup.Markup

structure Shapes where
  /-- Elements that hold a list, whatever the names of its items. -/
  lists : List String
  integers : List String
  booleans : List String

def Shapes.none : Shapes := ⟨[], [], []⟩

/-- The value of a text in an element of a name. A text that does not fit the name stays a text. -/
def Shapes.scalar (shapes : Shapes) (name text : String) : Json :=
  if shapes.integers.contains name then
    match Text.signed? text.toList with
    | some n => .number (.integer n)
    | Option.none => .string text
  else if shapes.booleans.contains name then
    match text with
    | "true" => .bool true
    | "false" => .bool false
    | _ => .string text
  else .string text

structure Element where
  name : String
  /-- The names and values of the children, the latest first. -/
  children : List (String × Json)
  text : List Char

def Element.start (name : List Char) : Element := ⟨String.ofList name, [], []⟩

/-- Adds a child's value to the members. The values of a repeated name are collected in an array. -/
def addChild (members : Json.Members) (child : String × Json) : Json.Members :=
  match members.get? child.1 with
  | some (.array items) => members.insert child.1 (.array (items ++ [child.2]))
  | some first => members.insert child.1 (.array [first, child.2])
  | none => members.insert child.1 child.2

/-- The value of a complete element: the array of its children's values, an object of them, its
text, or an empty object when it has neither children nor text. -/
def Element.value (shapes : Shapes) (e : Element) : Json :=
  let children := e.children.reverse
  if shapes.lists.contains e.name then .array (children.map Prod.snd)
  else if children.isEmpty then
    if e.text.isEmpty then .object [] else shapes.scalar e.name (String.ofList e.text)
  else .object (children.foldl addChild [])

end CloudLookup.Markup
