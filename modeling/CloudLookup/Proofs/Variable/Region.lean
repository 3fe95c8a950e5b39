import CloudLookup.Client.Basic
import CloudLookup.Proofs.Resolution.Questions
import CloudLookup.Proofs.Text.Cutting
import CloudLookup.Variable

/-! The region of a host's lookups. They are made in the region of the host, less the white space
around it. A region of white space alone is not taken for a missing one: a lookup is made, but it
names no region. -/
namespace CloudLookup.Variable

theorem isClaimed_append (rest : String) : Reference.isClaimed ("aws:" ++ rest) := by
  unfold Reference.isClaimed
  rw [String.toList_append, Text.strip?_append]
  rfl

section Value

variable (settings : HostSettings) (delegate : Delegate) (rest : String)
  (provider : Provider σ) (state : σ)

theorem run_value_of_missing (h : settings.region = none ∨ settings.region = some "") :
    (value settings delegate ("aws:" ++ rest)).run provider state =
      ⟨.error .noRegion, [], [], state⟩ := by
  unfold value
  rw [isClaimed_append]
  obtain h | h := h <;> rw [h] <;> rfl

variable {r : String} (h : settings.region = some r) (hr : r ≠ "")

include h hr

theorem value_of_some :
    value settings delegate ("aws:" ++ rest) =
      (resolve ("aws:" ++ rest) (some r) settings.strict).mapError
        (.unresolved ("aws:" ++ rest)) := by
  have present : (some r).filter (fun r => !r.isEmpty) = some r := by simpa [Option.filter] using hr
  unfold value
  rw [isClaimed_append, h, present]
  rfl

theorem asked_value_of_some :
    ((value settings delegate ("aws:" ++ rest)).run provider state).asked =
      ((resolve ("aws:" ++ rest) (some r) settings.strict).run provider state).asked := by
  rw [value_of_some settings delegate rest h hr, Lookup.run_mapError]

end Value

/-- Without a region of the host a lookup fails and asks nothing. With one, all that it asks is in
that region, and no client puts its own in its place. -/
def KeepsRegion (settings : HostSettings) (run : Run Problem (Option Json) σ) : Prop :=
  ((∃ problem, run.outcome = .error problem ∧
      problem.message = "Cannot hydrate AWS variables without a region") ∧ run.asked = []) ∨
    ∃ r t, settings.region = some r ∧ Text.IsTrimmed r t ∧
      ∀ q ∈ run.asked, q.region = some t ∧ ∀ client : Client, client.regionFor q.region = .ok t

def HasBlankRegion (settings : HostSettings) : Prop :=
  ∃ r, settings.region = some r ∧ r ≠ "" ∧ ∀ c ∈ r.toList, Text.isBlank c

section Region

variable {settings : HostSettings} (delegate : Delegate) (rest : String) (provider : Provider σ)
  (state : σ)

theorem region_of_blank (h : HasBlankRegion settings) :
    ∀ q ∈ ((value settings delegate ("aws:" ++ rest)).run provider state).asked,
      q.region = none := by
  obtain ⟨r, hr, present, blank⟩ := h
  intro q hq
  rw [asked_value_of_some settings delegate rest provider state hr present] at hq
  rw [region_of_mem_asked provider (some r) settings.strict state hq]
  have region := callRegion_given? (some r)
  generalize Region.given? (some r) = t at region
  cases region with
  | blank _ => rfl
  | named ht hne => exact absurd (ht.eq_empty blank) hne

theorem keepsRegion_of_not_blank (h : ¬ HasBlankRegion settings) :
    KeepsRegion settings ((value settings delegate ("aws:" ++ rest)).run provider state) := by
  by_cases missing : settings.region = none ∨ settings.region = some ""
  · rw [run_value_of_missing settings delegate rest provider state missing]
    exact .inl ⟨⟨.noRegion, rfl, rfl⟩, rfl⟩
  · obtain ⟨hn, he⟩ := not_or.mp missing
    obtain ⟨r, hr⟩ := Option.ne_none_iff_exists'.mp hn
    have present : r ≠ "" := fun empty => he (by rw [hr, empty])
    have region := callRegion_given? (some r)
    have asked {q : Question}
        (hq : q ∈ ((value settings delegate ("aws:" ++ rest)).run provider state).asked) :
        q.region = Region.given? (some r) := by
      rw [asked_value_of_some settings delegate rest provider state hr present] at hq
      exact region_of_mem_asked provider (some r) settings.strict state hq
    generalize Region.given? (some r) = t at region asked
    cases region with
    | blank blank => exact absurd ⟨r, hr, present, blank⟩ h
    | named ht _ =>
      refine .inr ⟨r, _, hr, ht, fun q hq => ⟨asked hq, fun client => ?_⟩⟩
      rw [asked hq]
      rfl

end Region

/-- A lookup for a host keeps to the region of the host exactly when that is not white space alone
or nothing is asked. In such a region each question names none. -/
theorem keepsRegion_iff (settings : HostSettings) (delegate : Delegate) (rest : String)
    (provider : Provider σ) (state : σ) :
    let run := (value settings delegate ("aws:" ++ rest)).run provider state
    (KeepsRegion settings run ↔ (HasBlankRegion settings → run.asked = [])) ∧
      (HasBlankRegion settings → ∀ q ∈ run.asked, q.region = none) := by
  intro run
  have unnamed (h : HasBlankRegion settings) : ∀ q ∈ run.asked, q.region = none :=
    region_of_blank delegate rest provider state h
  refine ⟨⟨?_, ?_⟩, unnamed⟩
  · rintro (⟨-, asked⟩ | ⟨r, t, -, -, named⟩) blank
    · exact asked
    · rw [List.eq_nil_iff_forall_not_mem]
      intro q hq
      have := (unnamed blank q hq).symm.trans (named q hq).1
      contradiction
  · intro asked
    by_cases blank : HasBlankRegion settings
    · -- Nothing is asked, so any region is kept to.
      have nothing := asked blank
      obtain ⟨r, hr, -, -⟩ := blank
      refine .inr ⟨r, Text.trim r, hr, Text.isTrimmed_trim r, fun q hq => ?_⟩
      rw [nothing] at hq
      contradiction
    · exact keepsRegion_of_not_blank delegate rest provider state blank

theorem asked_of_blank_region :
    let run := (value ⟨some " ", true⟩ (fun _ => .ok none) "aws:kinesis:events:StreamARN").run
      (Provider.fixed fun _ => .ok .null) ()
    run.asked = [⟨.stream "events", none⟩] ∧
      Client.regionFor ⟨some "us-east-1", none, fun _ => .absent⟩ none = .ok "us-east-1" ∧
      ¬ KeepsRegion ⟨some " ", true⟩ run := by
  intro run
  have asked : run.asked = [⟨.stream "events", none⟩] := by rfl
  refine ⟨asked, rfl, ?_⟩
  rintro (⟨-, h⟩ | ⟨_, t, -, -, named⟩)
  · simp [asked] at h
  · have := (named ⟨.stream "events", none⟩ (by simp [asked])).1
    contradiction

end CloudLookup.Variable
