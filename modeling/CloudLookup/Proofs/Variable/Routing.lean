import CloudLookup.Proofs.Resolution.Group
import CloudLookup.Proofs.Variable.Region

/-! The two sides of a host's variables. A variable whose text begins as that of a reference is
resolved, and any other is left to the source behind. A list of variables has the list of their
values, or the problem of the first of them that has one. -/
namespace CloudLookup

namespace Lookup

theorem run_of_answersBy {provider : Provider σ} {answer : Question → Except Failure Json}
    (fixed : provider.AnswersBy answer) (l : Lookup ε α) (before after : σ) :
    (l.run provider before).outcome = (l.run provider after).outcome ∧
      (l.run provider before).asked = (l.run provider after).asked := by
  induction l generalizing before after with
  | done outcome => simp
  | note line rest ih => exact ih before after
  | ask question next ih =>
    simp only [run, fixed before question, fixed after question]
    obtain ⟨outcome, asked⟩ :=
      ih (answer question) (provider.answer before question).state
        (provider.answer after question).state
    exact ⟨outcome, congrArg (question :: ·) asked⟩

end Lookup

theorem Reference.isClaimed_iff {name : String} :
    isClaimed name ↔ ∃ rest, name = "aws:" ++ rest := by
  constructor
  · intro h
    obtain ⟨rest, hs⟩ := Option.isSome_iff_exists.mp h
    refine ⟨String.ofList rest, ?_⟩
    rw [← String.toList_inj, Text.eq_append_of_strip? hs]
    simp
  · rintro ⟨rest, rfl⟩
    exact Variable.isClaimed_append rest

theorem Reference.eq_append_of_parse {name : String} {r : Reference} (h : parse name = .ok r) :
    ∃ rest, name = "aws:" ++ rest := by
  rw [← isClaimed_iff, isClaimed, (parse_eq_ok_iff.mp h).toList, Text.strip?_append]
  rfl

namespace Variable

/-- A variable goes to one side and never to the other. -/
structure Routed (settings : HostSettings) (region : String) (delegate : Delegate)
    (provider : Provider σ) (state : σ) (name : String) : Prop where
  delegated : (∀ rest, name ≠ "aws:" ++ rest) →
    (value settings delegate name).run provider state =
        ⟨(delegate name).mapError .delegate, [], [], state⟩ ∧
      ∀ failure, (Problem.delegate failure).message = failure.message ∧
        (Problem.delegate failure).causes = failure.causes
  resolved : ∀ rest, name = "aws:" ++ rest →
    (∀ other, value settings other name = value settings delegate name) ∧
      (value settings delegate name).run provider state =
        (let run := (resolve name (some region) settings.strict).run provider state
        { run with outcome := run.outcome.mapError (.unresolved name) }) ∧
      ∀ error, (Problem.unresolved name error).message = "Failed to resolve variable " ++ name ∧
        (Problem.unresolved name error).causes = error.message :: error.causes
  readable : ∀ r, Reference.parse name = .ok r → ∃ rest, name = "aws:" ++ rest

/-- A run for a list of names, against the runs for its members. -/
structure JoinsInOrder (single : String → Run ε α σ) (names : List String)
    (run : Run ε (List α) σ) : Prop where
  ok_iff : (∃ vs, run.outcome = .ok vs) ↔ ∀ name ∈ names, ∃ v, (single name).outcome = .ok v
  values : ∀ vs, run.outcome = .ok vs ↔ names.map (fun n => (single n).outcome) = vs.map .ok
  error_iff : ∀ e, run.outcome = .error e ↔ ∃ before name after,
    names = before ++ name :: after ∧ (∀ n ∈ before, ∃ v, (single n).outcome = .ok v) ∧
      (single name).outcome = .error e
  asked : ∀ vs, run.outcome = .ok vs → run.asked = names.flatMap fun n => (single n).asked
  ended : ∀ before name after e, names = before ++ name :: after →
    (∀ n ∈ before, ∃ v, (single n).outcome = .ok v) → (single name).outcome = .error e →
    run.asked = (before ++ [name]).flatMap fun n => (single n).asked

section Value

variable {settings : HostSettings} {region : String} (delegate : Delegate) (provider : Provider σ)
  (state : σ)

theorem run_value_of_unclaimed {name : String} (h : ∀ rest, name ≠ "aws:" ++ rest) :
    (value settings delegate name).run provider state =
      ⟨(delegate name).mapError .delegate, [], [], state⟩ := by
  have unclaimed : Reference.isClaimed name = false := by
    rw [Bool.eq_false_iff]
    intro claimed
    obtain ⟨rest, hn⟩ := Reference.isClaimed_iff.mp claimed
    exact h rest hn
  unfold value
  rw [unclaimed]
  rfl

theorem routed (hr : settings.region = some region) (present : region ≠ "") (name : String) :
    Routed settings region delegate provider state name where
  delegated h := ⟨run_value_of_unclaimed delegate provider state h, fun _ => ⟨rfl, rfl⟩⟩
  resolved := by
    rintro rest rfl
    have claimed (other : Delegate) := value_of_some settings other rest hr present
    refine ⟨fun other => (claimed other).trans (claimed delegate).symm, ?_, fun _ => ⟨rfl, rfl⟩⟩
    rw [claimed, Lookup.run_mapError]
  readable _ h := Reference.eq_append_of_parse h

end Value

section First

variable {single : α → Except ε β}

theorem all_ok_or_first_error (single : α → Except ε β) (names : List α) :
    (∃ vs : List β, names.map single = vs.map .ok) ∨ ∃ before name after e,
      names = before ++ name :: after ∧ (∀ n ∈ before, ∃ v, single n = .ok v) ∧
        single name = .error e := by
  induction names with
  | nil => exact .inl ⟨[], rfl⟩
  | cons name names ih =>
    cases h : single name with
    | error e => exact .inr ⟨[], name, names, e, rfl, by simp, h⟩
    | ok v =>
      obtain ⟨vs, hv⟩ | ⟨before, failing, after, e, rfl, ok, failed⟩ := ih
      · exact .inl ⟨v :: vs, by simp [h, hv]⟩
      · refine .inr ⟨name :: before, failing, after, e, rfl, ?_, failed⟩
        simp only [List.mem_cons, forall_eq_or_imp]
        exact ⟨⟨v, h⟩, ok⟩

theorem first_error_unique {before before' after after' : List α} {name name' : α} {e e' : ε}
    (same : before ++ name :: after = before' ++ name' :: after')
    (ok : ∀ n ∈ before, ∃ v, single n = .ok v) (failed : single name = .error e)
    (ok' : ∀ n ∈ before', ∃ v, single n = .ok v) (failed' : single name' = .error e') :
    before = before' ∧ name = name' := by
  induction before generalizing before' with
  | nil =>
    cases before' with
    | nil => exact ⟨rfl, (List.cons.inj same).1⟩
    | cons first before' =>
      obtain ⟨v, hv⟩ := ok' name (by simp [(List.cons.inj same).1])
      simp [failed] at hv
  | cons first before ih =>
    cases before' with
    | nil =>
      obtain ⟨v, hv⟩ := ok name' (by simp [← (List.cons.inj same).1])
      simp [failed'] at hv
    | cons first' before' =>
      obtain ⟨rfl, rest⟩ := List.cons.inj same
      obtain ⟨rfl, rfl⟩ := ih rest (fun n hn => ok n (.tail _ hn)) fun n hn => ok' n (.tail _ hn)
      exact ⟨rfl, rfl⟩

end First

namespace JoinsInOrder

variable {single : String → Run ε α σ} {run : Run ε (List α) σ}

theorem of_ok {names : List String} {vs : List α}
    (h : names.map (fun n => (single n).outcome) = vs.map .ok) (outcome : run.outcome = .ok vs)
    (asked : run.asked = names.flatMap fun n => (single n).asked) :
    JoinsInOrder single names run := by
  have every : ∀ name ∈ names, ∃ v, (single name).outcome = .ok v := by
    intro name hn
    have listed : (single name).outcome ∈ vs.map .ok := h ▸ List.mem_map_of_mem hn
    obtain ⟨v, -, hv⟩ := List.mem_map.mp listed
    exact ⟨v, hv.symm⟩
  have none {name : String} {e : ε} (hn : name ∈ names) : (single name).outcome ≠ .error e := by
    obtain ⟨v, hv⟩ := every name hn
    simp [hv]
  constructor
  case ok_iff => exact ⟨fun _ => every, fun _ => ⟨vs, outcome⟩⟩
  case values =>
    intro vs'
    rw [outcome, h, List.map_inj_right fun _ _ => Except.ok.inj, Except.ok.injEq]
  case error_iff =>
    intro e
    rw [outcome]
    constructor
    · intro error
      contradiction
    · rintro ⟨before, name, after, rfl, -, failed⟩
      exact absurd failed (none (by simp))
  case asked => exact fun _ _ => asked
  case ended =>
    rintro before name after e rfl - failed
    exact absurd failed (none (by simp))

theorem of_error {before : List String} {name : String} {after : List String} {e : ε}
    (ok : ∀ n ∈ before, ∃ v, (single n).outcome = .ok v) (failed : (single name).outcome = .error e)
    (outcome : run.outcome = .error e)
    (asked : run.asked = (before ++ [name]).flatMap fun n => (single n).asked) :
    JoinsInOrder single (before ++ name :: after) run := by
  have member : name ∈ before ++ name :: after := by simp
  have unique {before' name' after' e'}
      (same : before ++ name :: after = before' ++ name' :: after')
      (ok' : ∀ n ∈ before', ∃ v, (single n).outcome = .ok v)
      (failed' : (single name').outcome = .error e') : before = before' ∧ name = name' :=
    @first_error_unique _ _ _ (fun n => (single n).outcome) _ _ _ _ _ _ _ _ same ok failed ok'
      failed'
  constructor
  case ok_iff =>
    rw [outcome]
    constructor
    · simp
    · intro every
      obtain ⟨v, hv⟩ := every name member
      simp [failed] at hv
  case values =>
    intro vs
    rw [outcome]
    constructor
    · simp
    · intro h
      have listed : (single name).outcome ∈ vs.map .ok := h ▸ List.mem_map_of_mem member
      simp [failed] at listed
  case error_iff =>
    intro e'
    rw [outcome, Except.error.injEq]
    constructor
    · rintro rfl
      exact ⟨before, name, after, rfl, ok, failed⟩
    · rintro ⟨before', name', after', same, ok', failed'⟩
      obtain ⟨-, rfl⟩ := unique same ok' failed'
      exact Except.error.inj (failed.symm.trans failed')
  case asked =>
    intro vs h
    rw [outcome] at h
    contradiction
  case ended =>
    intro before' name' after' e' same ok' failed'
    obtain ⟨rfl, rfl⟩ := unique same ok' failed'
    exact asked

end JoinsInOrder

section Values

variable {settings : HostSettings} {delegate : Delegate} {provider : Provider σ}
  {answer : Question → Except Failure Json} (fixed : provider.AnswersBy answer) (alone : σ)

include fixed

theorem run_values_of_ok {names : List String} {vs : List (Option Json)}
    (h : names.map (fun n => ((value settings delegate n).run provider alone).outcome) =
      vs.map .ok) (state : σ) :
    ((values settings delegate names).run provider state).outcome = .ok vs ∧
      ((values settings delegate names).run provider state).asked =
        names.flatMap fun n => ((value settings delegate n).run provider alone).asked := by
  induction names generalizing vs state with
  | nil =>
    obtain rfl : vs = [] := by simpa using h.symm
    exact ⟨rfl, rfl⟩
  | cons name names ih =>
    cases vs with
    | nil => simp at h
    | cons v vs =>
      obtain ⟨hv, hs⟩ := List.cons.inj h
      obtain ⟨outcome, asked⟩ :=
        Lookup.run_of_answersBy fixed (value settings delegate name) state alone
      obtain ⟨ok, rest⟩ := ih hs ((value settings delegate name).run provider state).state
      unfold values
      rw [Lookup.run_bind_of_ok (outcome.trans hv), Lookup.run_bind_of_ok ok]
      simp [Run.followedBy, asked, rest]

theorem run_values_of_error {before : List String} {name : String} {problem : Problem}
    (ok : ∀ n ∈ before, ∃ v, ((value settings delegate n).run provider alone).outcome = .ok v)
    (failed : ((value settings delegate name).run provider alone).outcome = .error problem)
    (after : List String) (state : σ) :
    ((values settings delegate (before ++ name :: after)).run provider state).outcome =
        .error problem ∧
      ((values settings delegate (before ++ name :: after)).run provider state).asked =
        (before ++ [name]).flatMap
          fun n => ((value settings delegate n).run provider alone).asked := by
  induction before generalizing state with
  | nil =>
    obtain ⟨outcome, asked⟩ :=
      Lookup.run_of_answersBy fixed (value settings delegate name) state alone
    dsimp only [List.nil_append]
    unfold values
    rw [Lookup.run_bind_of_error (outcome.trans failed)]
    simp [asked]
  | cons first before ih =>
    obtain ⟨⟨v, hv⟩, ok⟩ := List.forall_mem_cons.mp ok
    obtain ⟨outcome, asked⟩ :=
      Lookup.run_of_answersBy fixed (value settings delegate first) state alone
    obtain ⟨error, rest⟩ := ih ok ((value settings delegate first).run provider state).state
    dsimp only [List.cons_append]
    unfold values
    rw [Lookup.run_bind_of_ok (outcome.trans hv), Lookup.run_bind_of_error error]
    simp [Run.followedBy, asked, rest]

theorem joinsInOrder (names : List String) (state : σ) :
    JoinsInOrder (fun name => (value settings delegate name).run provider alone) names
      ((values settings delegate names).run provider state) := by
  obtain ⟨vs, hv⟩ | ⟨before, name, after, problem, rfl, ok, failed⟩ := all_ok_or_first_error
    (fun n => ((value settings delegate n).run provider alone).outcome) names
  · obtain ⟨outcome, asked⟩ := run_values_of_ok fixed alone hv state
    exact .of_ok hv outcome asked
  · obtain ⟨outcome, asked⟩ := run_values_of_error fixed alone ok failed after state
    exact .of_error ok failed outcome asked

end Values

/-- With a region of the host and answers that do not depend on what was asked before, every
variable goes to one side, and a list of variables comes to what its members come to alone. -/
theorem values_routed_in_order {settings : HostSettings} {region : String}
    (hr : settings.region = some region) (present : region ≠ "") {provider : Provider σ}
    {answer : Question → Except Failure Json} (fixed : provider.AnswersBy answer)
    (delegate : Delegate) :
    (∀ name state, Routed settings region delegate provider state name) ∧
      ∀ names state alone,
        JoinsInOrder (fun name => (value settings delegate name).run provider alone) names
          ((values settings delegate names).run provider state) :=
  ⟨fun name state => routed delegate provider state hr present name,
    fun names state alone => joinsInOrder fixed alone names state⟩

def oneValue : Delegate
  | "plain" => .ok (some (.string "text"))
  | "broken" => .error (.reported "no such file" ["disk"])
  | _ => .ok none

theorem values_of_mixed_sources :
    let settings : HostSettings := ⟨some "eu-west-1", true⟩
    let run names := (values settings oneValue names).run (Provider.fixed oneGroup) ()
    settings.region = some "eu-west-1" ∧ "eu-west-1" ≠ "" ∧
      (Provider.fixed oneGroup).AnswersBy oneGroup ∧
      (run ["plain", "aws:ec2:vpc:alpha.1:VpcId", "other", "plain"]).outcome =
        .ok [some (.string "text"), some (.string "vpc-1"), none, some (.string "text")] ∧
      (run ["plain", "aws:ec2:vpc:beta:VpcId", "broken"]).outcome =
        .error (.unresolved "aws:ec2:vpc:beta:VpcId" (.transport (.reported "not found" []))) := by
  intro settings run
  have fixed : (Provider.fixed oneGroup).AnswersBy oneGroup := fun _ _ => rfl
  obtain ⟨-, joined⟩ :=
    values_routed_in_order (rfl : settings.region = some "eu-west-1") (by decide) fixed oneValue
  refine ⟨rfl, by decide, fixed, ?_, ?_⟩
  · exact ((joined _ () ()).values _).mpr rfl
  · exact ((joined _ () ()).error_iff _).mpr
      ⟨["plain"], _, ["broken"], rfl, by simp; exact ⟨_, rfl⟩, rfl⟩

end Variable

end CloudLookup
