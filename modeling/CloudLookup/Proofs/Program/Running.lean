import CloudLookup.Program.Basic

/-! What a run of the program comes to on a machine with a network. A conversation is the run of its
lookup with the provider that the client reaches, so the program writes what the resolution comes to
and sends what it sends. -/
namespace CloudLookup

namespace Client

variable {client : Client} {network : Network} (log : σ → LogLine → σ)

theorem run_ask_eq_answer (sent : List Http.Request) (q : Question) (state : σ) :
    (client.ask (network.world log) sent q).run state =
      let answer := client.answer network sent q
      pure ((answer.outcome, answer.state), answer.log.foldl log state) := by
  rw [run_ask, answer_eq]
  cases client.prepare sent (network.now sent) q with
  | mk lines prepared => cases prepared <;> rfl

/-- The lines go to the log one by one, as the provider's answers and the lookup write them. -/
theorem run_converse (l : Lookup ε α) (sent : List Http.Request) (state : σ) :
    (client.converse (network.world log) l sent).run state =
      let run := l.run (client.provider network) sent
      pure ((run.outcome, run.state), run.log.foldl log state) := by
  induction l generalizing sent state with
  | done outcome => rfl
  | note line rest ih => exact ih sent (log state line)
  | ask q next ih =>
    rw [converse, StateT.run_bind, run_ask_eq_answer, pure_bind]
    dsimp only
    rw [ih]
    simp only [Lookup.run, provider, List.foldl_append]

end Client

namespace Program

def keptLog (options : Options) (m : Machine) (lines : List LogLine) : Option (List LogLine) :=
  if options.logLevel.isSome && m.logProblem.isNone then
    some (lines.filter (shows options.logLevel))
  else none

variable {arguments : List String} {options : Options} {m : Machine} {network : Network}

def logs (options : Options) (log : Option (List LogLine)) (line : LogLine) :
    Option (List LogLine) :=
  if shows options.logLevel line then log.map (· ++ [line]) else log

theorem foldl_logs (lines : List LogLine) (log : Option (List LogLine)) :
    lines.foldl (logs options) log = log.map (· ++ lines.filter (shows options.logLevel)) := by
  induction lines generalizing log with
  | nil => simp
  | cons line lines ih =>
    rw [List.foldl_cons, ih, logs, List.filter_cons]
    split
    · simp [Function.comp_def]
    · rfl

theorem start_of :
    ((Host.of m network).start options.logLevel.isSome).run none =
      pure ((m, fun line => modify (Option.map (· ++ [line]))), keptLog options m []) := by
  unfold Host.of keptLog
  dsimp only
  split <;> rfl

theorem world_of :
    (⟨(Host.of m network).respond, (Host.of m network).now, fun line =>
        if shows options.logLevel line then modify (Option.map (· ++ [line])) else return ()⟩ :
      World (StateM (Option (List LogLine)))) = network.world (logs options) := by
  have log (line : LogLine) : (if shows options.logLevel line then
      modify (Option.map (· ++ [line])) else return () : StateM (Option (List LogLine)) Unit) =
      (network.world (logs options)).log line := by
    funext kept
    unfold Network.world logs
    dsimp only
    split <;> rfl
  simp only [log]
  rfl

/-- The program writes what the resolution comes to, sends what it sends and keeps the lines of its
log that count. -/
theorem run_of_task {t : Task} (hc : command arguments = .resolve options)
    (ht : task options m = .ok t) :
    let found := t.lookup.run (t.client.provider network) []
    let ending := Ending.ofOutcome options.key found.outcome
    (run (.of m network) arguments).run none =
      (({ ending with stderr := logWarning options m ++ ending.stderr }, found.state),
        keptLog options m found.log) := by
  intro found ending
  have kept : found.log.foldl (logs options) (keptLog options m []) =
      keptLog options m found.log := by
    rw [foldl_logs]
    unfold keptLog
    split <;> rfl
  unfold run
  rw [hc]
  dsimp only
  rw [StateT.run_bind, start_of, pure_bind]
  dsimp only
  rw [ht]
  dsimp only
  rw [world_of, StateT.run_bind, Client.run_converse, pure_bind, kept]
  rfl

theorem run_of_problem {problem : Client.Problem} (hc : command arguments = .resolve options)
    (ht : task options m = .error problem) :
    let ending := Ending.ofError problem.message problem.causes
    (run (.of m network) arguments).run none =
      (({ ending with stderr := logWarning options m ++ ending.stderr }, []),
        keptLog options m []) := by
  intro ending
  unfold run
  rw [hc]
  dsimp only
  rw [StateT.run_bind, start_of, pure_bind]
  dsimp only
  rw [ht]
  rfl

end Program

end CloudLookup
