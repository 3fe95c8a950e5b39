import CloudLookup.Proofs.Lookup.Run
import CloudLookup.Resolve

/-! Runs of resolutions. A reference that cannot be read asks nothing; any other asks what the
lookup of its record asks, and nothing is asked after that. -/
namespace CloudLookup

def resolved (reference path : String) (strict : Bool) :
    Except ResolveError Json → Except ResolveError (Option Json)
  | .ok record => (property reference path record).map some
  | .error e => if !strict && e.isSoft then .ok none else .error e

def resolvedLog (reference : String) (strict : Bool) : Except ResolveError Json → List LogLine
  | .ok _ => []
  | .error e =>
    if !strict && e.isSoft then [⟨.debug, s!"Error while resolving {reference}: {e.message}"⟩]
    else []

theorem resolvedLog_strict (reference : String) (found : Except ResolveError Json) :
    resolvedLog reference true found = [] := by
  cases found <;> rfl

theorem run_resolve_of_error {reference : String} {e : ResolveError}
    (h : Reference.parse reference = .error e)
    (provider : Provider σ) (region : Option String) (strict : Bool) (state : σ) :
    (resolve reference region strict).run provider state = ⟨.error e, [], [], state⟩ := by
  unfold resolve
  rw [h, Lookup.run_bind_of_error rfl]
  rfl

theorem run_resolve_of_ok {reference : String} {r : Reference}
    (h : Reference.parse reference = .ok r)
    (provider : Provider σ) (region : Option String) (strict : Bool) (state : σ) :
    (resolve reference region strict).run provider state =
      let found := (r.find (Region.given? region)).run provider state
      { outcome := resolved reference r.property strict found.outcome
        asked := found.asked
        log := found.log ++ resolvedLog reference strict found.outcome
        state := found.state } := by
  unfold resolve
  rw [h]
  change ((r.find _).andThen _).run provider state = _
  rw [Lookup.run_andThen]
  dsimp only
  generalize (r.find (Region.given? region)).run provider state = found
  cases hf : found.outcome with
  | ok record => simp only [Run.followedBy, Lookup.run_done, resolved, resolvedLog, List.append_nil]
  | error e =>
    simp only [resolved, resolvedLog]
    split
    · rw [Lookup.run_bind_of_ok rfl]
      simp only [Run.followedBy, Lookup.run_debug, Lookup.run_pure, List.append_nil]
    · simp only [Run.followedBy, Lookup.run_fail, List.append_nil]

theorem Reference.parse_error {s : String} {e : ResolveError} (h : parse s = .error e) :
    e = .format s ∨ ∃ rest, e = .unknownService rest := by
  have parts {rest tag key property : List Char} (h : ofParts rest tag key property = .error e) :
      ∃ rest, e = .unknownService rest := by
    unfold ofParts at h
    split at h
    · contradiction
    · exact ⟨_, (Except.error.inj h).symm⟩
  unfold parse at h
  dsimp only at h
  split at h
  · exact .inr (parts h)
  · exact .inr (parts h)
  · exact .inl (Except.error.inj h).symm

end CloudLookup
