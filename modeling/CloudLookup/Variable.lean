import CloudLookup.Resolve

/-! Variables of a host: references are resolved, all else is left to the source behind. -/
namespace CloudLookup.Variable

structure HostSettings where
  region : Option String := none
  strict : Bool := true
  deriving DecidableEq, Repr

/-- The source behind: its value of a variable, or none. -/
abbrev Delegate := String → Except Failure (Option Json)

inductive Problem where
  | noRegion
  | unresolved (name : String) (error : ResolveError)
  | delegate (failure : Failure)
  deriving DecidableEq, Repr

namespace Problem

def message : Problem → String
  | noRegion => "Cannot hydrate AWS variables without a region"
  | unresolved name _ => s!"Failed to resolve variable {name}"
  | delegate failure => failure.message

def causes : Problem → List String
  | noRegion => []
  | unresolved _ error => error.message :: error.causes
  | delegate failure => failure.causes

end Problem

def value (settings : HostSettings) (delegate : Delegate) (name : String) :
    Lookup Problem (Option Json) :=
  if !Reference.isClaimed name then Lookup.done ((delegate name).mapError .delegate)
  else
    match settings.region.filter (fun r => !r.isEmpty) with
    | none => Lookup.fail .noRegion
    | some region => (resolve name (some region) settings.strict).mapError (.unresolved name)

/-- The values of variables in order. The first problem ends the search. -/
def values (settings : HostSettings) (delegate : Delegate) :
    List String → Lookup Problem (List (Option Json))
  | [] => pure []
  | name :: names => do
    let v ← value settings delegate name
    let vs ← values settings delegate names
    pure (v :: vs)

end CloudLookup.Variable
