import CloudLookup.Describe.Shapes
import CloudLookup.Markup.Document
import CloudLookup.Text.Uppercase

/-! What XML answers hold for a call. -/
namespace CloudLookup.XmlAnswer

open Markup (Shapes)

/-- The element named for an action and its result, or an empty object if there is none. -/
def actionResult (shapes : Shapes) (action : String) (document : List Char) :
    Except Markup.Error Json :=
  (Markup.read shapes document).map fun root =>
    (root.value.member? (action ++ "Result")).getD (.object [])

/-- The element names that are not just written with a small first letter. -/
def renamed : List (String × String) :=
  [("vpcSet", "Vpcs"), ("subnetSet", "Subnets"), ("securityGroupInfo", "SecurityGroups"),
   ("tagSet", "Tags"), ("groups", "UserIdGroupPairs")]

def memberName (name : String) : String :=
  match renamed.lookup name with
  | some new => new
  | none => String.ofList (Text.capitalize name.toList)

mutual

def normalize : Json → Json
  | .object members => .object (Json.Members.ofList (normalizeMembers members))
  | .array items => .array (normalizeItems items)
  | value => value

def normalizeItems : List Json → List Json
  | [] => []
  | item :: items => normalize item :: normalizeItems items

def normalizeMembers : List (String × Json) → List (String × Json)
  | [] => []
  | (name, value) :: members => (memberName name, normalize value) :: normalizeMembers members

end

def normalizedRoot (document : List Char) : Except Markup.Error Json :=
  (Markup.read Api.ec2Shapes document).map fun root => normalize root.value

end CloudLookup.XmlAnswer
