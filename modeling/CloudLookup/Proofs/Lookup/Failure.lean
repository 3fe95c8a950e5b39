import CloudLookup.Proofs.Lookup.Record
import CloudLookup.Resolve

/-! Lookups end with the first call that fails. So they come to the same log with two providers that
differ only in how their calls fail. -/
namespace CloudLookup

structure Answer.AlikeButFailure (one two : Answer σ) : Prop where
  log : one.log = two.log
  state : one.state = two.state
  outcome : one.outcome = two.outcome ∨ ∃ e f, one.outcome = .error e ∧ two.outcome = .error f

structure Run.AlikeButFailure (one two : Run ResolveError α σ) : Prop where
  asked : one.asked = two.asked
  log : one.log = two.log
  state : one.state = two.state
  outcome : one.outcome = two.outcome ∨
    ∃ e f, one.outcome = .error (.transport e) ∧ two.outcome = .error (.transport f)

namespace Lookup

inductive EndsOnFailure : Lookup ResolveError α → Prop where
  | done (outcome : Except ResolveError α) : EndsOnFailure (done outcome)
  | note {line : LogLine} {rest : Lookup ResolveError α} (h : EndsOnFailure rest) :
    EndsOnFailure (note line rest)
  | ask {q : Question} {next : Except Failure Json → Lookup ResolveError α}
    (failed : ∀ failure, next (.error failure) = .done (.error (.transport failure)))
    (answered : ∀ answer, EndsOnFailure (next (.ok answer))) : EndsOnFailure (ask q next)

namespace EndsOnFailure

theorem bind {l : Lookup ResolveError α} {f : α → Lookup ResolveError β} (hl : EndsOnFailure l)
    (hf : ∀ value, EndsOnFailure (f value)) : EndsOnFailure (l >>= f) := by
  induction hl with
  | done outcome =>
    cases outcome with
    | ok value => exact hf value
    | error e => exact .done (.error e)
  | note _ ih => exact .note ih
  | ask failed _ ih =>
    refine .ask (fun failure => ?_) ih
    rw [failed]
    rfl

theorem debug (text : String) : EndsOnFailure (Lookup.debug text) := .note (.done (.ok ()))

theorem describe (region : Option String) (call : Call) : EndsOnFailure (describe region call) :=
  .ask (fun _ => rfl) fun answer => .done (.ok answer)

theorem orNotFound (what key : String) (record : Option Json) :
    EndsOnFailure (orNotFound what key record) := by
  cases record <;> exact .done _

theorem onlyInstance (key : String) (records : List Json) :
    EndsOnFailure (onlyInstance key records) := by
  match records with
  | [] => exact .done _
  | [_] => exact .done _
  | _ :: _ :: _ => exact .done _

theorem once (text : String) (region : Option String) (call : Call)
    {conclude : Json → RecordLookup} (h : ∀ answer, EndsOnFailure (conclude answer)) :
    EndsOnFailure (do
      Lookup.debug text
      let answer ← Lookup.describe region call
      conclude answer) :=
  (debug text).bind fun _ => (describe region call).bind h

variable (region : Option String) (key : String)

theorem vpc : EndsOnFailure (vpc region key) := once _ _ _ fun _ => orNotFound ..

theorem subnet : EndsOnFailure (subnet region key) := once _ _ _ fun _ => orNotFound ..

theorem vpcId (record : Json) : EndsOnFailure (vpcId key record) := by
  unfold Lookup.vpcId
  split <;> exact .done _

theorem securityGroup : EndsOnFailure (securityGroup region key) := by
  refine (EndsOnFailure.done (splitGroupKey key)).bind fun names => ?_
  refine (debug _).bind fun _ => (vpc region names.1).bind fun record => ?_
  refine (vpcId names.1 record).bind fun id => ?_
  exact (describe _ _).bind fun _ => orNotFound ..

theorem network : EndsOnFailure (network region key) := by
  unfold Lookup.network
  dsimp only
  split
  · rename_i find h
    split
    · exact .done _
    · obtain ⟨-, rfl⟩ | ⟨-, rfl⟩ | ⟨-, rfl⟩ := networkKind?_eq_some h
      · exact vpc ..
      · exact subnet ..
      · exact securityGroup ..
  · exact .done _

theorem find (r : Reference) : EndsOnFailure (r.find region) := by
  refine (debug _).bind fun _ => ?_
  cases r.resource with
  | cacheCluster => exact once _ _ _ fun _ => orNotFound ..
  | searchDomain => exact once _ _ _ fun _ => orNotFound ..
  | stream => exact once _ _ _ fun _ => orNotFound ..
  | table => exact once _ _ _ fun _ => orNotFound ..
  | dbInstance => exact once _ _ _ fun _ => onlyInstance ..
  | network => exact network ..

end EndsOnFailure

theorem EndsOnFailure.run_alike {one two : Provider σ}
    (alike : ∀ state q, (one.answer state q).AlikeButFailure (two.answer state q))
    {l : Lookup ResolveError α} (h : l.EndsOnFailure) (state : σ) :
    (l.run one state).AlikeButFailure (l.run two state) := by
  induction h generalizing state with
  | done outcome => exact ⟨rfl, rfl, rfl, .inl rfl⟩
  | @note line rest _ ih =>
    obtain ⟨asked, log, after, outcome⟩ := ih state
    exact ⟨asked, congrArg (line :: ·) log, after, outcome⟩
  | @ask q next failed _ ih =>
    obtain ⟨log, after, outcome⟩ := alike state q
    -- Whatever the failure is, only the outcome shows it.
    have ended (p : Provider σ) {e : Failure} (he : (p.answer state q).outcome = .error e) :
        (Lookup.ask q next).run p state = ⟨.error (.transport e), [q], (p.answer state q).log,
          (p.answer state q).state⟩ := by
      simp only [run, he, failed, List.append_nil]
    obtain same | ⟨e, f, he, hf⟩ := outcome
    · cases ha : (one.answer state q).outcome with
      | error e =>
        rw [ended one ha, ended two (same ▸ ha)]
        exact ⟨rfl, log, after, .inl rfl⟩
      | ok answer =>
        have rest := ih answer (one.answer state q).state
        simp only [run, ← same, ha, ← log, ← after]
        exact ⟨congrArg (q :: ·) rest.asked, congrArg (_ ++ ·) rest.log, rest.state, rest.outcome⟩
    · rw [ended one he, ended two hf]
      exact ⟨rfl, log, after, .inr ⟨e, f, rfl, rfl⟩⟩

end Lookup

end CloudLookup
