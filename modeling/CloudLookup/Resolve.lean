import CloudLookup.Lookup.Record
import CloudLookup.Record.Extract
import CloudLookup.Reference.Basic

/-! Resolving references: read, look up, extract. -/
namespace CloudLookup

namespace Reference

def find (r : Reference) (region : Option String) : Lookup ResolveError Json := do
  Lookup.debug s!"dispatch: service={r.resource.tag}, key={r.key}"
  match r.resource with
  | .cacheCluster => Lookup.cacheCluster region r.key
  | .searchDomain => Lookup.searchDomain region r.key
  | .stream => Lookup.stream region r.key
  | .table => Lookup.table region r.key
  | .dbInstance => Lookup.dbInstance region r.key
  | .network => Lookup.network region r.key

end Reference

def property (reference path : String) (record : Json) : Except ResolveError Json :=
  match Record.extract record path with
  | some value => .ok value
  | none => .error (.extraction reference path (Record.candidates record))

/-- Resolves a reference to the value that it names. The region counts when it is not blank. A
lookup that fails softly has no value unless it is strict. -/
def resolve (reference : String) (region : Option String) (strict : Bool) :
    Lookup ResolveError (Option Json) := do
  let parsed ← Lookup.done (Reference.parse reference)
  (parsed.find (Region.given? region)).andThen fun
    | .ok record => Lookup.done ((property reference parsed.property record).map some)
    | .error e =>
      if !strict && e.isSoft then do
        Lookup.debug s!"Error while resolving {reference}: {e.message}"
        pure none
      else Lookup.fail e

def resolveStrict (reference : String) (region : Option String) : Lookup ResolveError Json := do
  let value ← resolve reference region true
  pure (value.getD .null)

end CloudLookup
