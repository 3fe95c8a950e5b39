import CloudLookup.Error
import CloudLookup.Json.Fault
import CloudLookup.Markup.Flaw
import CloudLookup.Signature.Basic
import CloudLookup.Url.Host

/-! Why a call to the provider fails. -/
namespace CloudLookup.Client

inductive SendProblem where
  | noHost
  | invalidHeader
  | notWeb
  | noAnswer
  deriving DecidableEq, Repr

def SendProblem.causes (url : String) : SendProblem → List String
  | noHost => [s!"builder error for url ({url})", "URL scheme is not allowed"]
  | invalidHeader => ["builder error", "failed to parse header value"]
  | notWeb =>
    [s!"error sending request for url ({url})", "client error (Connect)",
     "invalid URL, scheme is not http"]
  | noAnswer =>
    [s!"error sending request for url ({url})", "client error (SendRequest)",
     "connection closed before message completed"]

inductive Problem where
  | invalidEndpoint (url : String) (problem : Url.Problem)
  | noRegion
  | noCredentials
  | keysUnavailable (causes : List String)
  /-- The address has a path without segments. -/
  | noBase
  | unsigned (problem : Signature.Problem)
  | unsent (url : String) (problem : SendProblem)
  | api (error : ApiError)
  | markup (error : Markup.Error)
  | json (text : List Char) (fault : Json.Fault)
  deriving DecidableEq, Repr

namespace Problem

def message : Problem → String
  | invalidEndpoint url _ => s!"Invalid endpoint URL: {url}"
  | noRegion => "No AWS region configured. Set AWS_REGION, a profile region or pass a region"
  | noCredentials => "No AWS credentials provider configured"
  | keysUnavailable _ => "Failed to load AWS credentials. " ++
      "Configure a profile, environment variables or an instance role"
  | noBase => "Endpoint URL cannot be a base"
  | unsigned problem => problem.message
  | unsent _ _ => "Failed to send request"
  | api e => e.render
  | markup e => e.message
  | json _ _ => "Failed to parse response JSON"

def causes : Problem → List String
  | invalidEndpoint _ problem => [problem.message]
  | keysUnavailable causes => causes
  | unsigned problem => problem.causes
  | unsent url problem => problem.causes url
  | markup e => e.causes
  | json text fault => [fault.message text]
  | noRegion | noCredentials | noBase | api _ => []

def failure : Problem → Failure
  | api e => .api e
  | problem => .reported problem.message problem.causes

end Problem

end CloudLookup.Client
