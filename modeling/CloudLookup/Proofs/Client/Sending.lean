import CloudLookup.Proofs.Client.Preparing
import CloudLookup.Proofs.Signature.Covered

/-! What a client sends for a call: one request when the call passes all checks and its request can
be handed over, else nothing. The request has one signature, for the region and the interface of the
call. -/
namespace CloudLookup

open Signature (Fits Sendable)

namespace Client

section Signed

variable {credentials : Signature.Credentials} {service region : String} {time : Nat}
  {unsigned : Http.Request} {added : List (String × String)}

end Signed

/-- The checks that a call passes at a time, after the requests sent before: it has a region, keys
and an address, and its request is built and signed, which adds headers to it. -/
structure Signs (client : Client) (sent : List Http.Request) (time : Nat) (q : Question)
    (region : String) (credentials : Signature.Credentials) (unsigned : Http.Request)
    (added : List (String × String)) : Prop where
  located : client.regionFor q.region = .ok region
  keys : client.credentials sent = .ok credentials
  built : ∃ endpoint, client.endpoint q.call.api region = .ok endpoint ∧
    q.call.request endpoint = .ok unsigned
  signed : Signature.sign credentials q.call.api.endpointName region time (signable unsigned) =
    .ok added

/-- At a time a call is sent as a request: it passes the checks, and the signed request can be
handed over. -/
def Sends (client : Client) (sent : List Http.Request) (time : Nat) (q : Question)
    (request : Http.Request) : Prop :=
  ∃ region credentials unsigned added,
    client.Signs sent time q region credentials unsigned added ∧
    Fits region credentials ∧ unsigned.url.IsWeb ∧
    request = moveAccess (withHeaders unsigned added)

variable {client : Client} {sent : List Http.Request} {time : Nat} {q : Question}
  {request : Http.Request}

end Client

end CloudLookup
