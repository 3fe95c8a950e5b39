import CloudLookup.Proofs.Text.Cutting
import CloudLookup.Reference.Grammar
import Mathlib.Data.List.Forall2

/-! The two patterns of references. Both are runs of characters with colons between them, so they
accept a text for its parts between colons. -/
namespace CloudLookup

namespace Text

def IsRun (kind : Char → Bool) (s : List Char) : Prop := s ≠ [] ∧ ∀ c ∈ s, kind c

instance (kind : Char → Bool) (s : List Char) : Decidable (IsRun kind s) :=
  decidable_of_iff (s ≠ [] ∧ s.all kind) (and_congr_right' List.all_eq_true)

theorem IsRun.not_mem {kind : Char → Bool} {s : List Char} {c : Char} (h : IsRun kind s)
    (other : kind c = false) : c ∉ s := by
  intro hc
  rw [h.2 c hc] at other
  contradiction

theorem accepts_nil {s : List Char} : Pattern.accepts [] s ↔ s = [] := by
  cases s <;> simp [Pattern.accepts]

theorem accepts_one_cons {c : Char} {pattern : Pattern} {s : List Char} :
    Pattern.accepts (.one c :: pattern) s ↔ ∃ t, s = c :: t ∧ pattern.accepts t := by
  cases s with
  | nil => simp [Pattern.accepts]
  | cons x s =>
    simp only [Pattern.accepts, Bool.and_eq_true, beq_iff_eq, List.cons.injEq]
    exact ⟨fun ⟨hx, hs⟩ => ⟨s, ⟨hx, rfl⟩, hs⟩, fun ⟨_, ⟨hx, ht⟩, hs⟩ => ⟨hx, ht ▸ hs⟩⟩

theorem accepts_run_cons {kind : Char → Bool} {pattern : Pattern} {s : List Char} :
    Pattern.accepts (.run kind :: pattern) s ↔
      ∃ a t, s = a ++ t ∧ IsRun kind a ∧ pattern.accepts t := by
  induction s with
  | nil =>
    simp only [Pattern.accepts, Bool.false_eq_true, false_iff]
    rintro ⟨a, t, h, ha, -⟩
    exact ha.1 (List.append_eq_nil_iff.mp h.symm).1
  | cons c s ih =>
    simp only [Pattern.accepts, Bool.and_eq_true, Bool.or_eq_true, ih]
    constructor
    · rintro ⟨hc, hs | ⟨a, t, rfl, ha, ht⟩⟩
      · exact ⟨[c], s, rfl, ⟨by simp, by simpa using hc⟩, hs⟩
      · exact ⟨c :: a, t, rfl, ⟨by simp, List.forall_mem_cons.mpr ⟨hc, ha.2⟩⟩, ht⟩
    · rintro ⟨a, t, h, ha, ht⟩
      cases a with
      | nil => exact absurd rfl ha.1
      | cons x a =>
        obtain ⟨rfl, rfl⟩ := List.cons.inj h
        obtain ⟨hx, ha'⟩ := List.forall_mem_cons.mp ha.2
        refine ⟨hx, ?_⟩
        cases a with
        | nil => exact .inl ht
        | cons y a => exact .inr ⟨y :: a, t, rfl, ⟨by simp, ha'⟩, ht⟩

theorem accepts_literal_append {text : List Char} {pattern : Pattern} {s : List Char} :
    Pattern.accepts (text.map .one ++ pattern) s ↔ ∃ t, s = text ++ t ∧ pattern.accepts t := by
  induction text generalizing s with
  | nil => simp
  | cons c text ih =>
    simp only [List.map_cons, List.cons_append, accepts_one_cons, ih]
    exact ⟨fun ⟨_, hs, t, ht, h⟩ => ⟨t, by rw [hs, ht], h⟩,
      fun ⟨t, hs, h⟩ => ⟨text ++ t, hs, t, rfl, h⟩⟩

/-- Runs of characters with colons between them. -/
def runs : List (Char → Bool) → Pattern
  | [] => []
  | [kind] => [.run kind]
  | kind :: kinds => .run kind :: .one ':' :: runs kinds

theorem accepts_runs_iff {kinds : List (Char → Bool)} (some_kind : kinds ≠ [])
    (apart : ∀ kind ∈ kinds, kind ':' = false) {s : List Char} :
    (runs kinds).accepts s ↔ List.Forall₂ IsRun kinds (fields ':' s) := by
  induction kinds generalizing s with
  | nil => contradiction
  | cons kind kinds ih =>
    obtain ⟨colon, apart⟩ := List.forall_mem_cons.mp apart
    cases kinds with
    | nil =>
      simp only [runs, accepts_run_cons, accepts_nil]
      constructor
      · rintro ⟨part, _, rfl, hp, rfl⟩
        rw [List.append_nil, fields_of_not_mem (hp.not_mem colon)]
        exact .cons hp .nil
      · intro h
        cases hf : fields ':' s with
        | nil => exact absurd hf (fields_ne_nil s)
        | cons part parts =>
          rw [hf] at h
          obtain - | ⟨hp, ⟨⟩⟩ := h
          exact ⟨part, [], by rw [eq_of_fields hf, List.append_nil], hp, rfl⟩
    | cons next kinds =>
      simp only [runs, accepts_run_cons, accepts_one_cons]
      constructor
      · rintro ⟨part, _, rfl, hp, rest, rfl, accepted⟩
        rw [fields_append (hp.not_mem colon)]
        exact .cons hp ((ih (List.cons_ne_nil _ _) apart).mp accepted)
      · intro h
        cases hf : fields ':' s with
        | nil => exact absurd hf (fields_ne_nil s)
        | cons part parts =>
          rw [hf] at h
          obtain - | ⟨hp, others⟩ := h
          cases parts with
          | nil => cases others
          | cons other parts =>
            obtain ⟨rest, rfl, hr⟩ := eq_append_of_fields hf
            refine ⟨part, _, rfl, hp, rest, rfl, (ih (List.cons_ne_nil _ _) apart).mpr ?_⟩
            rwa [hr]

end Text

namespace Reference

open Text

theorem accepts_claimed_iff {kinds : List (Char → Bool)} (some_kind : kinds ≠ [])
    (apart : ∀ kind ∈ kinds, kind ':' = false) {s : List Char} :
    (Pattern.literal "aws:" ++ runs kinds).accepts s ↔
      ∃ parts, fields ':' s = "aws".toList :: parts ∧ List.Forall₂ IsRun kinds parts := by
  simp only [Pattern.literal, accepts_literal_append, accepts_runs_iff some_kind apart]
  constructor
  · rintro ⟨rest, rfl, h⟩
    have noColon : ':' ∉ "aws".toList := by decide
    exact ⟨_, fields_append noColon, h⟩
  · rintro ⟨parts, hf, h⟩
    cases h with
    | nil => contradiction
    | cons hp others =>
      obtain ⟨rest, rfl, hr⟩ := eq_append_of_fields hf
      exact ⟨rest, rfl, hr ▸ .cons hp others⟩

end Reference

end CloudLookup
