import CloudLookup.Proofs.Reference.Form
import CloudLookup.Proofs.Resolution.Questions

/-! References of five parts to resources without kinds. They are not rejected: the kind and the key
are looked up as one name, with the colon between them. Names without a colon are all that is looked
up for references of four parts. -/
namespace CloudLookup

def Run.Rejected (run : Run ResolveError α σ) : Prop :=
  (∃ e, run.outcome = .error e ∧ e.isSoft = false) ∧ run.asked = []

def Call.names : Call → List String
  | cacheClusters name | elasticsearchDomain name | vpcs name | subnets name | stream name
  | table name | dbInstances name => [name]
  | securityGroups group network => [group, network]

/-- A reference of five parts is rejected, and no name that is asked for has a colon. -/
structure KeepsKindsOut (s : String) (run : Run ResolveError α σ) : Prop where
  rejected : Reference.shape? s.toList = some .subService → run.Rejected
  bare : ∀ q ∈ run.asked, ∀ name ∈ q.call.names, ':' ∉ name.toList

def joinedName (kind name : List Char) : String := String.ofList (kind ++ ':' :: name)

section Single

variable {s : String} {r : Reference} {call : String → Call}

theorem Resource.names_of_call? {resource : Resource} (h : resource.call? = some call)
    (name : String) : (call name).names = [name] := by
  cases resource with
  | network => contradiction
  | _ =>
    obtain rfl := Option.some.inj h
    rfl

theorem Reference.shape_of_parse (h : parse s = .ok r) :
    (shape? s.toList = some .standard ∧ ':' ∉ r.key.toList) ∨
      (shape? s.toList = some .subService ∧
        ∃ kind name, IsSubService s.toList r.resource.tag.toList kind name r.property.toList ∧
          r.key = joinedName kind name) := by
  cases parse_eq_ok_iff.mp h with
  | standard h => exact .inl ⟨shape?_of_standard h, h.key.not_mem (by decide)⟩
  | subService h joined =>
    refine .inr ⟨shape?_of_subService h, _, _, h, ?_⟩
    rw [← String.toList_inj, joined, joinedName, String.toList_ofList]

variable (provider : Provider σ) (region : Option String) (strict : Bool) (state : σ)

theorem outcome_resolve_of_failure (h : Reference.parse s = .ok r)
    (single : r.resource.call? = some call) {failure : Failure}
    (failed : (provider.answer state ⟨call r.key, Region.given? region⟩).outcome =
      .error failure) :
    ((resolve s region strict).run provider state).outcome =
      if strict then .error (.transport failure) else .ok none := by
  rw [run_resolve_of_ok h]
  obtain ⟨text, conclude, found⟩ :=
    Lookup.run_find_single provider (Region.given? region) state single
  rw [found]
  simp only [Lookup.askedOnce, failed, Lookup.concluded]
  cases strict <;> rfl

/-- Kinds are kept out of the lookups of resources without kinds exactly when the reference has four
parts. With five parts one call is made, which carries the kind and the key as one name; a lenient
resolution has no value when it fails. -/
theorem keepsKindsOut_iff (h : Reference.parse s = .ok r)
    (single : r.resource.call? = some call) :
    let run := (resolve s region strict).run provider state
    (KeepsKindsOut s run ↔ Reference.shape? s.toList = some .standard) ∧
      (Reference.shape? s.toList = some .subService → ∃ kind name,
        Reference.IsSubService s.toList r.resource.tag.toList kind name r.property.toList ∧
          run.asked = [⟨call (joinedName kind name), Region.given? region⟩] ∧
          ∀ failure, (provider.answer state
              ⟨call (joinedName kind name), Region.given? region⟩).outcome = .error failure →
            run.outcome = if strict then .error (.transport failure) else .ok none) := by
  intro run
  have asked : run.asked = [⟨call r.key, Region.given? region⟩] := by
    rw [show run.asked = _ from asked_resolve provider region strict state h]
    exact Lookup.asked_find_single provider _ state single
  obtain ⟨shape, bare⟩ | ⟨shape, kind, name, form, joined⟩ := Reference.shape_of_parse h
  · refine ⟨iff_of_true ⟨?_, ?_⟩ shape, ?_⟩
    · rw [shape]
      exact fun five => absurd five (by decide)
    · rw [asked]
      intro q hq
      obtain rfl := List.mem_singleton.mp hq
      rw [Resource.names_of_call? single]
      intro name hn
      obtain rfl := List.mem_singleton.mp hn
      exact bare
    · rw [shape]
      exact fun five => absurd five (by decide)
  · refine ⟨iff_of_false ?_ ?_, fun _ => ⟨kind, name, form, ?_, ?_⟩⟩
    · intro kept
      have nothing := (kept.rejected shape).2
      rw [asked] at nothing
      contradiction
    · rw [shape]
      decide
    · rw [asked, joined]
    · intro failure failed
      rw [← joined] at failed
      exact outcome_resolve_of_failure provider region strict state h single failed

end Single

theorem resolve_joined_stream :
    let run := (resolve "aws:kinesis:stream:events:StreamARN" (some "eu-west-1") false).run
      (Provider.fixed fun _ => .error (.reported "no such stream" [])) ()
    Reference.parse "aws:kinesis:stream:events:StreamARN" =
        .ok ⟨.stream, "stream:events", "StreamARN"⟩ ∧
      Resource.stream.call? = some .stream ∧
      run.asked = [⟨.stream "stream:events", some "eu-west-1"⟩] ∧ run.outcome = .ok none := by
  have h : Reference.parse "aws:kinesis:stream:events:StreamARN" =
      .ok ⟨.stream, "stream:events", "StreamARN"⟩ := by rfl
  have five : Reference.shape? "aws:kinesis:stream:events:StreamARN".toList =
      some .subService := by rfl
  obtain ⟨-, law⟩ := keepsKindsOut_iff
    (Provider.fixed fun _ => .error (.reported "no such stream" [])) (some "eu-west-1") false () h
    rfl
  obtain ⟨kind, name, -, -, failed⟩ := law five
  exact ⟨h, rfl, by rfl, failed _ rfl⟩

theorem joined_stream_resolves :
    let run := (resolve "aws:kinesis:stream:events:StreamARN" none true).run
      (Provider.fixed fun _ =>
        .ok (.single "StreamDescription" (.single "StreamARN" (.string "arn")))) ()
    Reference.shape? "aws:kinesis:stream:events:StreamARN".toList = some .subService ∧
      run.asked = [⟨.stream "stream:events", none⟩] ∧ run.outcome = .ok (some (.string "arn")) ∧
      ¬ run.Rejected ∧ ¬ KeepsKindsOut "aws:kinesis:stream:events:StreamARN" run := by
  intro run
  have five : Reference.shape? "aws:kinesis:stream:events:StreamARN".toList =
      some .subService := by rfl
  have asked : run.asked = [⟨.stream "stream:events", none⟩] := by rfl
  have unrejected : ¬ run.Rejected := by
    rintro ⟨-, nothing⟩
    rw [asked] at nothing
    contradiction
  exact ⟨five, asked, by rfl, unrejected, fun kept => unrejected (kept.rejected five)⟩

end CloudLookup
