import CloudLookup.Signature.Canonical
import CloudLookup.Signature.Timestamp

/-! Signatures of requests. -/
namespace CloudLookup.Signature

structure Credentials where
  accessKey : String
  secret : String
  sessionToken : Option String
  deriving DecidableEq, Repr

structure Signable where
  method : String
  url : String
  headers : List (String × String)
  body : List UInt8

inductive Problem where
  | unsignable (flaw : LocationFlaw)
  | invalidHeader
  deriving DecidableEq, Repr

namespace Problem

def message : Problem → String
  | unsignable _ => "Request cannot be signed"
  | invalidHeader => "Failed to sign request"

def causes : Problem → List String
  | unsignable flaw => ["failed to create canonical request", "the uri was invalid", flaw.message]
  | invalidHeader => ["failed to create canonical request", "invalid header value"]

end Problem

def scope (time : Nat) (region service : String) : List Char :=
  dateText time ++ '/' :: region.toList ++ '/' :: service.toList ++ "/aws4_request".toList

def signingKey (secret : String) (time : Nat) (region service : String) : List UInt8 :=
  let key := hmac (Text.utf8 ("AWS4".toList ++ secret.toList)) (Text.utf8 (dateText time))
  let key := hmac key (Text.utf8 region.toList)
  let key := hmac key (Text.utf8 service.toList)
  hmac key (Text.utf8 "aws4_request".toList)

/-- The headers that the signature covers: those of the request, the host, the time and the
token. -/
def coveredHeaders? (credentials : Credentials) (location : Location) (time : Nat)
    (headers : List (String × String)) : Option Headers := do
  let given ← normalizeHeaders? headers
  let hosted :=
    if given.any fun h => h.1 = "host".toList then given
    else given ++ [("host".toList, location.signedHost)]
  let dated := setHeader "x-amz-date" (timeText time) hosted
  match credentials.sessionToken with
  | none => some dated
  | some token =>
    if token.toList.all isValueChar then some (setHeader "x-amz-security-token" token.toList dated)
    else none

def sign (credentials : Credentials) (service region : String) (time : Nat) (request : Signable) :
    Except Problem (List (String × String)) := do
  let location ← (Location.parse request.url.toList).mapError .unsignable
  match coveredHeaders? credentials location time request.headers with
  | none => .error .invalidHeader
  | some headers =>
    let canonical := canonicalRequest request.method location headers request.body
    let scope := scope time region service
    let toSign := "AWS4-HMAC-SHA256\n".toList ++ timeText time ++ '\n' :: scope ++
      '\n' :: hex (sha256 (Text.utf8 canonical))
    let key := signingKey credentials.secret time region service
    let signature := String.ofList (hex (hmac key (Text.utf8 toSign)))
    let names := String.ofList (Text.join [';'] (signedNames headers))
    let scopeText := String.ofList scope
    let authorization := s!"AWS4-HMAC-SHA256 Credential={credentials.accessKey}/{scopeText}, " ++
      s!"SignedHeaders={names}, Signature={signature}"
    let token := credentials.sessionToken.toList.map fun token => ("x-amz-security-token", token)
    .ok (("x-amz-date", String.ofList (timeText time)) :: ("authorization", authorization) :: token)

end CloudLookup.Signature
