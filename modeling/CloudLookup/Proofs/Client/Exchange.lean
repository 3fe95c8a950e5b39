import CloudLookup.Proofs.Client.Logging
import CloudLookup.Proofs.Client.Sending

/-! What a resolution exchanges with the network. Each call that can be sent is sent as one request,
in the order of the calls, and nothing is sent after a call that fails. -/
namespace CloudLookup

namespace Client

section Attempt

variable (client : Client) (network : Network) (sent : List Http.Request) (q : Question)

/-- What is sent for one call after the requests sent before, and how the call fails if it does. -/
inductive Attempt : List Http.Request → Option Failure → Prop where
  | unsent {failure : Failure}
    (unable : ∀ request, ¬ client.Sends sent (network.now sent) q request) :
    Attempt [] (some failure)
  | dropped {request : Http.Request} {failure : Failure}
    (sends : client.Sends sent (network.now sent) q request)
    (answer : network.respond sent request = none) : Attempt [request] (some failure)
  | refused {request : Http.Request} {response : Http.Response} {error : ApiError}
    (sends : client.Sends sent (network.now sent) q request)
    (answer : network.respond sent request = some response)
    (refusal : response.isSuccess = false) (status : error.status = response.status) :
    Attempt [request] (some (.api error))
  /-- The status is one of success, but the answer may be of no use. -/
  | answered {request : Http.Request} {response : Http.Response} {failure : Option Failure}
    (sends : client.Sends sent (network.now sent) q request)
    (answer : network.respond sent request = some response)
    (success : response.isSuccess = true) : Attempt [request] failure

end Attempt

/-- What is sent for calls, one after another, and how the last one fails if it does. A call is made
only when the one before it has been answered. -/
inductive Exchange (client : Client) (network : Network) :
    List Http.Request → List Question → List Http.Request → Option Failure → Prop where
  | done {sent : List Http.Request} : Exchange client network sent [] [] none
  | failed {sent requests : List Http.Request} {q : Question} {failure : Failure}
    (last : client.Attempt network sent q requests (some failure)) :
    Exchange client network sent [q] requests (some failure)
  | next {sent requests : List Http.Request} {q : Question} {request : Http.Request}
    {asked : List Question} {ending : Option Failure}
    (first : client.Attempt network sent q [request] none)
    (rest : Exchange client network (sent ++ [request]) asked requests ending) :
    Exchange client network sent (q :: asked) (request :: requests) ending

variable {client : Client} {network : Network} {sent requests : List Http.Request} {q : Question}
  {request : Http.Request}

namespace Attempt

variable {failure : Option Failure}

theorem length_le (h : client.Attempt network sent q requests failure) : requests.length ≤ 1 := by
  cases h <;> simp

theorem sends (h : client.Attempt network sent q requests failure) (hm : request ∈ requests) :
    client.Sends sent (network.now sent) q request := by
  cases h with
  | unsent => contradiction
  | dropped sends | refused sends | answered sends => exact List.mem_singleton.mp hm ▸ sends

end Attempt

namespace Exchange

variable {asked : List Question} {ending : Option Failure}

theorem length_le (h : client.Exchange network sent asked requests ending) :
    requests.length ≤ asked.length := by
  induction h with
  | done => exact Nat.le_refl _
  | failed last => exact last.length_le
  | next _ _ ih => exact Nat.succ_le_succ ih

end Exchange

end Client

end CloudLookup
