import CloudLookup.Client.Basic

/-! What a client exchanges with the network. The same conversation is held on a real machine and
with a network that is given as a function. -/
namespace CloudLookup

/-- What a client reaches outside of itself, with effects. The requests sent before count. -/
structure World (m : Type → Type) where
  respond : List Http.Request → Http.Request → m (Option Http.Response)
  /-- The time in seconds from the start of 1970. -/
  now : List Http.Request → m Nat
  log : LogLine → m Unit

namespace Client

/-- Asks a question after the requests sent before, and tells which are sent then. Each line for the
log is passed on at once. -/
def ask [Monad m] (client : Client) (world : World m) (sent : List Http.Request) (q : Question) :
    m (Except Failure Json × List Http.Request) := do
  let (lines, prepared) := client.prepare sent (← world.now sent) q
  lines.forM world.log
  match prepared with
  | .error e => return (.error e.failure, sent)
  | .ok request =>
    let (lines, outcome) := conclude q.call request (← world.respond sent request)
    lines.forM world.log
    return (outcome, sent ++ [request])

def converse [Monad m] (client : Client) (world : World m) :
    Lookup ε α → List Http.Request → m (Except ε α × List Http.Request)
  | .done outcome, sent => return (outcome, sent)
  | .note line rest, sent => do
    world.log line
    client.converse world rest sent
  | .ask question next, sent => do
    let (answer, sent) ← client.ask world sent question
    client.converse world (next answer) sent

end Client

structure Network where
  respond : List Http.Request → Http.Request → Option Http.Response
  now : List Http.Request → Nat

/-- The world that a network makes up. Its only effect is on the log, which takes one line at a
time. -/
def Network.world (network : Network) (log : σ → LogLine → σ) : World (StateM σ) where
  respond sent request := return network.respond sent request
  now sent := return network.now sent
  log line := modify (log · line)

namespace Client

@[irreducible]
def answer (client : Client) (network : Network) (sent : List Http.Request) (q : Question) :
    Answer (List Http.Request) :=
  let world := network.world fun log line => log ++ [line]
  let ((outcome, sent), log) := (client.ask world sent q).run []
  ⟨outcome, log, sent⟩

/-- The provider that a client reaches over the network. Its state is the requests sent. -/
def provider (client : Client) (network : Network) : Provider (List Http.Request) :=
  ⟨client.answer network⟩

section Answer

variable (client : Client) (network : Network) (sent : List Http.Request) (q : Question)

theorem run_forM_log (log : σ → LogLine → σ) (lines : List LogLine) (state : σ) :
    (lines.forM (network.world log).log).run state = pure ((), lines.foldl log state) := by
  induction lines generalizing state with
  | nil => rfl
  | cons line lines ih => exact ih (log state line)

theorem run_ask (log : σ → LogLine → σ) (state : σ) :
    (client.ask (network.world log) sent q).run state =
      match client.prepare sent (network.now sent) q with
      | (lines, .error e) => ((.error e.failure, sent), lines.foldl log state)
      | (lines, .ok request) =>
        let (more, outcome) := conclude q.call request (network.respond sent request)
        ((outcome, sent ++ [request]), (lines ++ more).foldl log state) := by
  have time : (network.world log).now sent = pure (network.now sent) := rfl
  unfold ask
  rw [time, pure_bind]
  cases client.prepare sent (network.now sent) q with
  | mk lines prepared =>
    dsimp only
    rw [StateT.run_bind, run_forM_log, pure_bind]
    cases prepared with
    | error e => rfl
    | ok request =>
      have response : (network.world log).respond sent request =
        pure (network.respond sent request) := rfl
      dsimp only
      rw [response, pure_bind, StateT.run_bind, run_forM_log, pure_bind, List.foldl_append]
      rfl

theorem answer_eq :
    client.answer network sent q =
      match client.prepare sent (network.now sent) q with
      | (log, .error e) => ⟨.error e.failure, log, sent⟩
      | (log, .ok request) =>
        let (more, outcome) := conclude q.call request (network.respond sent request)
        ⟨outcome, log ++ more, sent ++ [request]⟩ := by
  have kept (lines : List LogLine) : lines.foldl (fun log line => log ++ [line]) [] = lines := by
    rw [List.foldl_append_eq_append, ← List.flatMap_def, List.flatMap_singleton', List.nil_append]
  unfold answer
  dsimp only
  rw [run_ask]
  cases client.prepare sent (network.now sent) q with
  | mk log prepared =>
    cases prepared with
    | error e =>
      dsimp only
      rw [kept]
    | ok request =>
      dsimp only
      rw [kept]

end Answer

end Client

end CloudLookup
