import CloudLookup.Proofs.Resolution.Basic

/-! Strict and lenient resolution. Both ask the same questions; they differ only where the lookup of
the record found nothing or could not be made, and there the lenient one has no value. -/
namespace CloudLookup

def lenientOutcome : Except ResolveError (Option Json) → Except ResolveError (Option Json)
  | .ok value => .ok value
  | .error (.notFound _ _) => .ok none
  | .error (.transport _) => .ok none
  | .error (.format reference) => .error (.format reference)
  | .error (.unknownService rest) => .error (.unknownService rest)
  | .error (.unsupportedSubKind kind) => .error (.unsupportedSubKind kind)
  | .error (.invalidKey service key reason) => .error (.invalidKey service key reason)
  | .error (.ambiguous key count) => .error (.ambiguous key count)
  | .error (.extraction reference path candidates) => .error (.extraction reference path candidates)

theorem lenientOutcome_error (e : ResolveError) :
    lenientOutcome (.error e) = if e.isSoft then .ok none else .error e := by
  cases e <;> rfl

private theorem lenientOutcome_of_parse {reference : String} {e : ResolveError}
    (h : Reference.parse reference = .error e) : lenientOutcome (.error e) = .error e := by
  obtain rfl | ⟨rest, rfl⟩ := Reference.parse_error h <;> rfl

private theorem lenientOutcome_property (reference path : String) (record : Json) :
    lenientOutcome ((property reference path record).map some) =
      (property reference path record).map some := by
  unfold property
  split <;> rfl

private theorem resolved_lenient (reference path : String) (found : Except ResolveError Json) :
    resolved reference path false found = lenientOutcome (resolved reference path true found) := by
  cases found with
  | ok record => exact (lenientOutcome_property reference path record).symm
  | error e => simp only [resolved, lenientOutcome_error, Bool.not_false, Bool.true_and,
      Bool.not_true, Bool.false_and, Bool.false_eq_true, if_false]

private theorem resolved_strict_ne_none (reference path : String)
    (found : Except ResolveError Json) : resolved reference path true found ≠ .ok none := by
  cases found with
  | ok record =>
    simp only [resolved, property]
    split <;> simp [Except.map]
  | error e => simp [resolved]

theorem outcome_resolve_strict_ne_none (provider : Provider σ) (state : σ) (reference : String)
    (region : Option String) :
    ((resolve reference region true).run provider state).outcome ≠ .ok none := by
  cases h : Reference.parse reference with
  | error e => simp [run_resolve_of_error h]
  | ok r =>
    rw [run_resolve_of_ok h]
    exact resolved_strict_ne_none reference r.property _

theorem outcome_resolveStrict (provider : Provider σ) (state : σ) (reference : String)
    (region : Option String) :
    ((resolve reference region true).run provider state).outcome =
      ((resolveStrict reference region).run provider state).outcome.map some := by
  have present := outcome_resolve_strict_ne_none provider state reference region
  unfold resolveStrict
  match h : ((resolve reference region true).run provider state).outcome with
  | .error e =>
    rw [Lookup.run_bind_of_error h]
    rfl
  | .ok none => exact absurd h present
  | .ok (some value) =>
    rw [Lookup.run_bind_of_ok h]
    rfl

/-- Strict and lenient resolution ask the same questions in the same order. The strict one always
has a value or an error, the lenient outcome follows from the strict one alone, and
`resolveStrict` has the value or the error of the strict one. -/
theorem resolve_strict_lenient (provider : Provider σ) (state : σ) (reference : String)
    (region : Option String) :
    let strict := (resolve reference region true).run provider state
    let lenient := (resolve reference region false).run provider state
    let value := (resolveStrict reference region).run provider state
    strict.outcome ≠ .ok none ∧
    strict.asked = lenient.asked ∧
    lenient.outcome = lenientOutcome strict.outcome ∧
    (∀ v, value.outcome = .ok v ↔ strict.outcome = .ok (some v)) ∧
    (∀ e, value.outcome = .error e ↔ strict.outcome = .error e) := by
  intro strict lenient value
  have hv : strict.outcome = value.outcome.map some :=
    outcome_resolveStrict provider state reference region
  have hs : (∀ v, value.outcome = .ok v ↔ strict.outcome = .ok (some v)) ∧
      (∀ e, value.outcome = .error e ↔ strict.outcome = .error e) := by
    rw [hv]
    cases value.outcome <;> simp [Except.map]
  refine ⟨outcome_resolve_strict_ne_none provider state reference region, ?_, ?_, hs⟩
  · cases h : Reference.parse reference with
    | error e => simp only [strict, lenient, run_resolve_of_error h]
    | ok r => simp only [strict, lenient, run_resolve_of_ok h]
  · cases h : Reference.parse reference with
    | error e => simp only [strict, lenient, run_resolve_of_error h, lenientOutcome_of_parse h]
    | ok r =>
      simp only [strict, lenient, run_resolve_of_ok h]
      exact resolved_lenient reference r.property _

end CloudLookup
