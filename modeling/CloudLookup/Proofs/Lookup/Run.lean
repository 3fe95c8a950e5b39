import CloudLookup.Lookup.Basic

/-! Runs of composed lookups. A lookup that goes on from another one asks and logs after it, and a
lookup cannot tell two providers apart that answer its questions alike. -/
namespace CloudLookup

def Run.followedBy (first : Run ε α σ) (second : Run δ β σ) : Run δ β σ :=
  ⟨second.outcome, first.asked ++ second.asked, first.log ++ second.log, second.state⟩

namespace Lookup

@[simp] theorem run_done (provider : Provider σ) (outcome : Except ε α) (state : σ) :
    (done outcome).run provider state = ⟨outcome, [], [], state⟩ := rfl

@[simp] theorem run_pure (provider : Provider σ) (value : α) (state : σ) :
    (pure value : Lookup ε α).run provider state = ⟨.ok value, [], [], state⟩ := rfl

@[simp] theorem run_fail (provider : Provider σ) (e : ε) (state : σ) :
    (fail e : Lookup ε α).run provider state = ⟨.error e, [], [], state⟩ := rfl

@[simp] theorem run_debug (provider : Provider σ) (text : String) (state : σ) :
    (debug text : Lookup ε Unit).run provider state = ⟨.ok (), [], [⟨.debug, text⟩], state⟩ := rfl

theorem ok_bind (value : α) (f : α → Lookup ε β) : done (.ok value) >>= f = f value := rfl

theorem run_debug_bind (provider : Provider σ) (text : String) (f : Unit → Lookup ε α) (state : σ) :
    (debug text >>= f).run provider state =
      { (f ()).run provider state with
        log := ⟨.debug, text⟩ :: ((f ()).run provider state).log } := rfl

theorem run_andThen (provider : Provider σ) (l : Lookup ε α) (f : Except ε α → Lookup δ β)
    (state : σ) :
    (l.andThen f).run provider state =
      (l.run provider state).followedBy
        ((f (l.run provider state).outcome).run provider (l.run provider state).state) := by
  induction l generalizing state with
  | done outcome => rfl
  | note line rest ih =>
    simp only [andThen, run, ih]
    rfl
  | ask question next ih =>
    simp only [andThen, run, ih]
    simp only [Run.followedBy, List.cons_append, List.append_assoc]

theorem run_bind_of_ok {provider : Provider σ} {l : Lookup ε α} {state : σ} {value : α}
    (h : (l.run provider state).outcome = .ok value) (f : α → Lookup ε β) :
    (l >>= f).run provider state =
      (l.run provider state).followedBy ((f value).run provider (l.run provider state).state) := by
  change (l.andThen _).run provider state = _
  rw [run_andThen, h]

theorem run_bind_of_error {provider : Provider σ} {l : Lookup ε α} {state : σ} {e : ε}
    (h : (l.run provider state).outcome = .error e) (f : α → Lookup ε β) :
    (l >>= f).run provider state = { l.run provider state with outcome := .error e } := by
  change (l.andThen _).run provider state = _
  rw [run_andThen, h]
  simp only [Run.followedBy, run_done, List.append_nil]

theorem run_mapError (provider : Provider σ) (f : ε → δ) (l : Lookup ε α) (state : σ) :
    (l.mapError f).run provider state =
      { l.run provider state with outcome := (l.run provider state).outcome.mapError f } := by
  unfold mapError
  rw [run_andThen]
  simp only [Run.followedBy, run_done, List.append_nil]

end Lookup

end CloudLookup
