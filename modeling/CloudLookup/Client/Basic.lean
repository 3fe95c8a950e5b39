import CloudLookup.Client.Encoding
import CloudLookup.Text.Base64

/-! Calling the provider: each call becomes one signed request. -/
namespace CloudLookup

namespace Client

inductive Keys where
  | absent
  | failing (causes : List String)
  | fixed (credentials : Signature.Credentials)
  deriving DecidableEq, Repr

end Client

structure Client where
  defaultRegion : Option String
  /-- Every request goes to this address. -/
  endpointUrl : Option Url
  /-- Asked anew for each call, so that keys may expire: the requests sent before count. -/
  keys : List Http.Request → Client.Keys

namespace Client

def endpointText (api : Api) (region : String) : String :=
  s!"https://{api.endpointName}.{region}.amazonaws.com/"

def parseEndpoint (text : String) : Except Problem Url :=
  (Url.parse text.toList).mapError (.invalidEndpoint text)

def create (defaultRegion endpointUrl : Option String) (keys : List Http.Request → Keys) :
    Except Problem Client := do
  let endpointUrl ← match endpointUrl with
    | some text => (parseEndpoint text).map some
    | none => .ok none
  .ok ⟨defaultRegion, endpointUrl, keys⟩

def regionFor (client : Client) (region : Option String) : Except Problem String :=
  match region.orElse fun _ => client.defaultRegion with
  | some region => .ok region
  | none => .error .noRegion

def endpoint (client : Client) (api : Api) (region : String) : Except Problem Url :=
  match client.endpointUrl with
  | some url => .ok url
  | none => parseEndpoint (endpointText api region)

def credentials (client : Client) (sent : List Http.Request) :
    Except Problem Signature.Credentials :=
  match client.keys sent with
  | .absent => .error .noCredentials
  | .failing causes => .error (.keysUnavailable causes)
  | .fixed credentials => .ok credentials

def userAgent : String := "aws-resolvers/0.2.1"

def basicAccess? (authority : Url.Authority) : Option (String × String) := do
  let username ← Text.ofUtf8? (Url.percentDecode authority.username)
  let password := (Text.ofUtf8? (Url.percentDecode authority.password)).getD []
  if username.isEmpty ∧ password.isEmpty then none
  let code := String.ofList (Text.base64 (Text.utf8 (username ++ ':' :: password)))
  some ("authorization", s!"Basic {code}")

/-- Moves the name and password in a request's address to a header before all others. -/
def moveAccess (request : Http.Request) : Http.Request :=
  match request.url.authority with
  | none => request
  | some authority =>
    match basicAccess? authority with
    | none => request
    | some header =>
      let bare := { authority with username := [], password := [] }
      { request with
        url := { request.url with authority := some bare }
        headers := header :: request.headers }

def sendProblem? (request : Http.Request) : Option SendProblem :=
  if !request.url.authority.any fun a => a.host.isPresent then some .noHost
  else if !request.headers.all fun h => h.2.toList.all Signature.isValueChar then
    some .invalidHeader
  else if !(["http", "https"].contains (String.ofList request.url.scheme)) then some .notWeb
  else none

/-- Adds the signature to a request, which covers the address as it is given. -/
def sealRequest (credentials : Signature.Credentials) (api : Api) (region : String) (time : Nat)
    (request : Http.Request) : Except Problem Http.Request := do
  let signable : Signature.Signable :=
    ⟨request.method, String.ofList request.url.render, request.headers, request.body⟩
  let added ← (Signature.sign credentials api.endpointName region time signable).mapError .unsigned
  let signed := moveAccess
    { request with headers := request.headers ++ added ++ [("user-agent", userAgent)] }
  match sendProblem? signed with
  | some problem => .error (.unsent (String.ofList signed.url.render) problem)
  | none => .ok signed

def prepare (client : Client) (sent : List Http.Request) (time : Nat) (q : Question) :
    List LogLine × Except Problem Http.Request :=
  match client.regionFor q.region with
  | .error e => ([], .error e)
  | .ok region =>
    match client.credentials sent with
    | .error e => ([], .error e)
    | .ok credentials =>
      let log := [⟨.trace, s!"Using credentials {credentials.accessKey}"⟩]
      match client.endpoint q.call.api region with
      | .error e => (log, .error e)
      | .ok endpoint =>
        let log := log ++ [⟨.debug, s!"describe: call={q.call.render}, region={region}"⟩]
        match q.call.request endpoint with
        | .error e => (log, .error e)
        | .ok request =>
          let url := String.ofList request.url.render
          (log ++ [⟨.debug, s!"{request.method} {url}"⟩],
            sealRequest credentials q.call.api region time request)

def conclude (call : Call) (request : Http.Request) (response : Option Http.Response) :
    List LogLine × Except Failure Json :=
  match response with
  | none => ([], .error (Problem.unsent (String.ofList request.url.render) .noAnswer).failure)
  | some response =>
    let (log, outcome) := call.interpret response
    (log, outcome.mapError Problem.failure)

end Client

end CloudLookup
