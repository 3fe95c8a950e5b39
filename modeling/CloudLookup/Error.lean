/-! The ways in which a lookup fails. -/
namespace CloudLookup

structure ApiError where
  status : Nat
  code : Option String
  message : Option String
  deriving DecidableEq, Repr

def ApiError.render (e : ApiError) : String :=
  let code := match e.code with
    | some code => s!" ({code})"
    | none => ""
  let message := match e.message with
    | some message => s!": {message}"
    | none => ""
  s!"API request failed: {e.status}{code}{message}"

inductive Failure where
  | api (error : ApiError)
  /-- Anything else: its wording, and the wordings of what it rests on. -/
  | reported (text : String) (causes : List String)
  deriving DecidableEq, Repr

namespace Failure

def message : Failure → String
  | api e => e.render
  | reported text _ => text

def causes : Failure → List String
  | api _ => []
  | reported _ causes => causes

end Failure

inductive ResolveError where
  | format (reference : String)
  | unknownService (rest : String)
  | unsupportedSubKind (kind : String)
  | invalidKey (service key reason : String)
  | notFound (what key : String)
  | ambiguous (key : String) (count : Nat)
  | extraction (reference property : String) (candidates : List String)
  | transport (failure : Failure)
  deriving DecidableEq, Repr

namespace ResolveError

def message : ResolveError → String
  | format reference => s!"Invalid AWS format for variable {reference}"
  | unknownService rest => s!"Cannot parse AWS type from {rest}"
  | unsupportedSubKind kind => s!"Unsupported EC2 value. {kind}"
  | invalidKey service key reason => s!"invalid {service} key '{key}': {reason}"
  | notFound what key => s!"Could not find {what} with name {key}"
  | ambiguous key count => s!"Expected exactly one DB instance for key {key}. Got {count}"
  | extraction reference property candidates =>
    let names := String.intercalate "," candidates
    s!"Error resolving {reference}. Key '{property}' not found. Candidates are {names}"
  | transport failure => failure.message

def causes : ResolveError → List String
  | transport failure => failure.causes
  | _ => []

/-- The lookup itself failed: a lookup that is not strict then has no value. A reference that is
malformed, ambiguous or names a missing property fails either way. -/
def isSoft : ResolveError → Bool
  | notFound _ _ => true
  | transport _ => true
  | _ => false

end ResolveError

end CloudLookup
