import CloudLookup.Markup.Document
import CloudLookup.Text.Blank

/-! Trees of elements, how they are written, and the values that they stand for. A tree is written
without attributes, comments and empty tags; its value is given without reading it. -/
namespace CloudLookup.Markup

/-- A character that means nothing but itself in a name. -/
def isNameChar (c : Char) : Bool := !isBlank c && !"<>/:=!?\"'".toList.contains c

structure Name where
  text : String
  nonempty : text.toList ≠ []
  plain : text.toList.all isNameChar

inductive Tree where
  | leaf (name : Name) (text : String)
  | node (name : Name) (children : List Tree)

namespace Tree

@[elab_as_elim, induction_eliminator]
theorem induct {motive : Tree → Prop} (leaf : ∀ name text, motive (.leaf name text))
    (node : ∀ name children, (∀ t ∈ children, motive t) → motive (.node name children)) :
    ∀ t, motive t :=
  Tree.rec (motive_1 := motive) (motive_2 := fun children => ∀ t ∈ children, motive t)
    leaf node (by simp) (fun _ _ ht hts => List.forall_mem_cons.mpr ⟨ht, hts⟩)

def name : Tree → String
  | leaf name _ => name.text
  | node name _ => name.text

inductive Everywhere (property : Name → List Tree → Prop) : Tree → Prop where
  | leaf (name : Name) (text : String) : Everywhere property (leaf name text)
  | node (name : Name) (children : List Tree) (here : property name children)
    (below : ∀ t ∈ children, Everywhere property t) : Everywhere property (node name children)

theorem everywhere_node {property : Name → List Tree → Prop} {name : Name} {children : List Tree} :
    Everywhere property (node name children) ↔
      property name children ∧ ∀ t ∈ children, Everywhere property t := by
  constructor
  · rintro ⟨⟩
    constructor <;> assumption
  · rintro ⟨here, below⟩
    exact .node name children here below

mutual

def decideEverywhere (property : Name → List Tree → Prop)
    [∀ name children, Decidable (property name children)] :
    (t : Tree) → Decidable (Everywhere property t)
  | leaf name text => .isTrue (.leaf name text)
  | node _ children =>
    have := decideForest property children
    decidable_of_iff _ everywhere_node.symm

def decideForest (property : Name → List Tree → Prop)
    [∀ name children, Decidable (property name children)] :
    (ts : List Tree) → Decidable (∀ t ∈ ts, Everywhere property t)
  | [] => .isTrue (List.forall_mem_nil _)
  | t :: ts =>
    have := decideEverywhere property t
    have := decideForest property ts
    decidable_of_iff _ List.forall_mem_cons.symm

end

instance (property : Name → List Tree → Prop)
    [∀ name children, Decidable (property name children)] (t : Tree) :
    Decidable (Everywhere property t) := decideEverywhere property t

end Tree

def writeNumbered (c : Char) : List Char := '&' :: '#' :: Text.decimal c.toNat ++ [';']

def writeChar (c : Char) : List Char :=
  match c with
  | '&' => "&amp;".toList
  | '<' => "&lt;".toList
  | '>' => "&gt;".toList
  | c => [c]

/-- A text between tags. Reading drops the blanks around a text, so they are written by number. -/
def writeText (text : List Char) : List Char :=
  let before := text.takeWhile isBlank
  let content := Text.trimOf isBlank text
  let after := text.drop (before ++ content).length
  before.flatMap writeNumbered ++ content.flatMap writeChar ++ after.flatMap writeNumbered

def writeElement (name : Name) (content : List Char) : List Char :=
  '<' :: name.text.toList ++ '>' :: content ++ '<' :: '/' :: name.text.toList ++ ['>']

mutual

def Tree.write : Tree → List Char
  | .leaf name text => writeElement name (writeText text.toList)
  | .node name children => writeElement name (writeAll children)

def writeAll : List Tree → List Char
  | [] => []
  | t :: ts => t.write ++ writeAll ts

end

def Shapes.textValue (shapes : Shapes) (name text : String) : Json :=
  if text = "" then .object []
  else if name ∈ shapes.integers then
    ((Text.signed? text.toList).map fun n => Json.number (.integer n)).getD (.string text)
  else if name ∈ shapes.booleans ∧ text = "true" then .bool true
  else if name ∈ shapes.booleans ∧ text = "false" then .bool false
  else .string text

def valuesOf (name : String) (pairs : List (String × Json)) : List Json :=
  (pairs.filter fun p => p.1 = name).map Prod.snd

/-- What stands for the values of a name: the only one, or the array of several. -/
def gather : List Json → Json
  | [value] => value
  | values => .array values

def objectOf (rename : String → String) (pairs : List (String × Json)) : Json :=
  .object (Json.Members.ofList (pairs.map fun p => (rename p.1, gather (valuesOf p.1 pairs))))

mutual

/-- The value that a tree stands for when the names in objects are changed. -/
def Tree.valueBy (rename : String → String) (shapes : Shapes) : Tree → Json
  | .leaf name text =>
    if name.text ∈ shapes.lists then .array [] else shapes.textValue name.text text
  | .node name children =>
    let values := namedValues rename shapes children
    if name.text ∈ shapes.lists then .array (values.map Prod.snd)
    else if values.isEmpty then .object []
    else objectOf rename values

def namedValues (rename : String → String) (shapes : Shapes) : List Tree → List (String × Json)
  | [] => []
  | t :: ts => (t.name, t.valueBy rename shapes) :: namedValues rename shapes ts

end

def Tree.value (shapes : Shapes) (t : Tree) : Json := t.valueBy id shapes

/-- No list occurs twice among the children of an element that is not a list. -/
def Tree.ListsOnce (shapes : Shapes) : Tree → Prop :=
  Everywhere fun name children => name.text ∉ shapes.lists →
    ∀ list ∈ shapes.lists, (children.map Tree.name).count list ≤ 1

instance (shapes : Shapes) (t : Tree) : Decidable (t.ListsOnce shapes) :=
  inferInstanceAs (Decidable (Tree.Everywhere _ t))

theorem namedValues_eq_map (rename : String → String) (shapes : Shapes) (ts : List Tree) :
    namedValues rename shapes ts = ts.map fun t => (t.name, t.valueBy rename shapes) := by
  induction ts with
  | nil => rfl
  | cons t ts ih => rw [namedValues, ih, List.map_cons]

end CloudLookup.Markup
