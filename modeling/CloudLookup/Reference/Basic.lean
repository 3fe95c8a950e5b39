import CloudLookup.Error
import CloudLookup.Reference.Grammar
import CloudLookup.Reference.Resource

/-! References, their text and reading them. -/
namespace CloudLookup

structure Reference where
  resource : Resource
  /-- The key of the resource; `kind:key` for a reference that has both. -/
  key : String
  property : String
  deriving DecidableEq, Repr

namespace Reference

def render (r : Reference) : String := s!"aws:{r.resource.tag}:{r.key}:{r.property}"

/-- The reference made of its parts, whose whole text follows `aws:`. -/
def ofParts (rest tag key property : List Char) : Except ResolveError Reference :=
  match Resource.ofTag? (String.ofList tag) with
  | some resource => .ok ⟨resource, String.ofList key, String.ofList property⟩
  | none => .error (.unknownService (String.ofList rest))

def parse (s : String) : Except ResolveError Reference :=
  let rest := s.toList.drop 4
  match shape? s.toList, Text.fields ':' rest with
  | some .standard, [tag, key, property] => ofParts rest tag key property
  | some .subService, [tag, kind, key, property] => ofParts rest tag (kind ++ ':' :: key) property
  | _, _ => .error (.format s)

end Reference

end CloudLookup
