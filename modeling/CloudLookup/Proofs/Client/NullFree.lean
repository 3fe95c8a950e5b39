import CloudLookup.Proofs.Client.Refinement
import CloudLookup.Proofs.Lookup.Ensures
import CloudLookup.Proofs.Lookup.Origin
import CloudLookup.Proofs.Markup.NullFree
import CloudLookup.Proofs.Record.Extract
import CloudLookup.Proofs.Url.Parser

/-! Lookups over the network find no null. What an interface answers in XML has none at any depth,
and the lookups that ask for JSON take no record that is null. -/
namespace CloudLookup

open Json (NullFree)

namespace XmlAnswer

theorem nullFree_normalize {value : Json} (h : NullFree value) : NullFree (normalize value) := by
  induction value using Json.induct with
  | array items ih =>
    rw [normalize_array, NullFree.array_iff, List.forall_mem_map]
    exact fun item listed => ih item listed (h.part (.item listed .here))
  | object members ih =>
    rw [normalize, normalizeMembers_eq_map]
    refine .ofList (List.forall_mem_map.mpr fun m named => ?_)
    exact ih m named (h.part (.member named .here))
  | _ => exact h

theorem nullFree_normalizedRoot {document : List Char} {value : Json}
    (h : normalizedRoot document = .ok value) : NullFree value := by
  obtain ⟨root, hr, rfl⟩ := eq_ok_of_map h
  exact nullFree_normalize (Markup.nullFree_read hr)

theorem nullFree_actionResult {shapes : Markup.Shapes} {action : String} {document : List Char}
    {value : Json} (h : actionResult shapes action document = .ok value) : NullFree value := by
  obtain ⟨root, hr, rfl⟩ := eq_ok_of_map h
  cases hm : root.value.member? (action ++ "Result") with
  | none => simp
  | some result => exact (Markup.nullFree_read hr).part (.of_member? hm)

end XmlAnswer

theorem Call.nullFree_answer {c : Call} (query : c.api.protocol = .query) {body : List Char}
    {value : Json} (h : c.answer body = .ok value) : NullFree value := by
  unfold answer at h
  cases ha : c.api with
  | ec2 =>
    rw [ha] at h
    exact XmlAnswer.nullFree_normalizedRoot (eq_ok_of_mapError h)
  | elastiCache | rds =>
    rw [ha] at h
    exact XmlAnswer.nullFree_actionResult (eq_ok_of_mapError h)
  | elasticsearch | kinesis | dynamoDb => simp [ha, Api.protocol] at query

theorem Client.nullFree_answer (client : Client) (network : Network) (sent : List Http.Request)
    {q : Question} (query : q.call.api.protocol = .query) {value : Json}
    (h : (client.answer network sent q).outcome = .ok value) : NullFree value := by
  rw [Client.answer_eq] at h
  split at h
  · contradiction
  · dsimp only at h
    unfold conclude at h
    split at h
    · contradiction
    · dsimp only at h
      unfold Call.interpret at h
      dsimp only at h
      split at h
      · exact Call.nullFree_answer query (eq_ok_of_mapError h)
      · contradiction

namespace Lookup

theorem ne_null_of_present? {answer value : Json} {name : String}
    (hv : present? name answer = some value) : value ≠ .null := by
  rintro rfl
  have kept := (Option.filter_eq_some_iff.mp hv).2
  contradiction

end Lookup

theorem Reference.ensures_find (r : Reference) (region : Option String) :
    (r.find region).Ensures (fun q answer => q.call.api.protocol = .query → NullFree answer)
      fun record => record ≠ .null ∧ (r.resource.api.protocol = .query → NullFree record) := by
  have whole {record : Json} (h : NullFree record) :
      record ≠ .null ∧ (r.resource.api.protocol = .query → NullFree record) :=
    ⟨h.ne_null, fun _ => h⟩
  have present {record : Json} (h : record ≠ .null) (other : r.resource.api.protocol ≠ .query) :
      record ≠ .null ∧ (r.resource.api.protocol = .query → NullFree record) :=
    ⟨h, fun query => absurd query other⟩
  refine (Lookup.Ensures.anything _).bind fun _ _ => ?_
  cases hr : r.resource with
  | cacheCluster =>
    refine .once fun answer h => .orNotFound (fun record found => ?_) _ _
    simpa only [hr] using whole ((h rfl).part (Lookup.occurs_first? found))
  | dbInstance =>
    refine .once fun answer h => .onlyInstance (fun record listed => ?_) _
    simpa only [hr] using whole ((h rfl).part (Lookup.occurs_items listed))
  | network =>
    refine .network _ _ fun list q answer record hq h found => ?_
    have query : q.call.api.protocol = .query := by rw [hq]; rfl
    simpa only [hr] using whole ((h query).part (Lookup.occurs_first? found))
  | searchDomain | stream | table =>
    refine .once fun answer _ => .orNotFound (fun record found => ?_) _ _
    have other : r.resource.api.protocol ≠ .query := by simp [hr, Resource.api, Api.protocol]
    simpa only [hr] using present (Lookup.ne_null_of_present? found) other

theorem Record.nullFree_extract {record value : Json} {path : String} (h : NullFree record)
    (found : extract record path = some value) : NullFree value :=
  h.part (Record.occurs_of_extract found)

/-- Over the network no record is null, and one of a cache cluster, a database or a network resource
has no null in it. So the value of a reference to such a resource is not null either, but there may
be none if the resolution is not strict. -/
theorem nothing_null_over_network (client : Client) (network : Network) (sent : List Http.Request)
    (region : Option String) :
    (∀ (r : Reference) record,
      ((r.find region).run (client.provider network) sent).outcome = .ok record →
        record ≠ .null ∧
          (r.resource ∈ [.cacheCluster, .dbInstance, .network] → NullFree record)) ∧
      ∀ reference r strict value, Reference.parse reference = .ok r →
        r.resource ∈ [.cacheCluster, .dbInstance, .network] →
        ((resolve reference region strict).run (client.provider network) sent).outcome =
          .ok value → value = none ∧ strict = false ∨ ∃ v, value = some v ∧ NullFree v := by
  have found {r : Reference} {t : Option String} {record : Json}
      (h : ((r.find t).run (client.provider network) sent).outcome = .ok record) :
      record ≠ .null ∧
        (r.resource ∈ [.cacheCluster, .dbInstance, .network] → NullFree record) := by
    obtain ⟨present, whole⟩ := (r.ensures_find t).run
      (fun sent q answer h query => client.nullFree_answer network sent query h) h
    refine ⟨present, fun hr => whole ?_⟩
    simp only [List.mem_cons, List.not_mem_nil, or_false] at hr
    obtain hr | hr | hr := hr <;> rw [hr] <;> rfl
  refine ⟨fun r record => found, fun reference r strict value hp hr ended => ?_⟩
  rw [run_resolve_of_ok hp] at ended
  dsimp only at ended
  cases ho : ((r.find (Region.given? region)).run (client.provider network) sent).outcome with
  | ok record =>
    rw [ho] at ended
    obtain ⟨v, hv, rfl⟩ := eq_ok_of_map ended
    refine .inr ⟨v, rfl, ?_⟩
    unfold property at hv
    split at hv
    · rename_i extracted he
      obtain rfl := Except.ok.inj hv
      exact Record.nullFree_extract ((found ho).2 hr) he
    · contradiction
  | error e =>
    rw [ho, resolved] at ended
    split at ended
    · rename_i soft
      simp only [Bool.and_eq_true, Bool.not_eq_true'] at soft
      exact .inl ⟨(Except.ok.inj ended).symm, soft.1⟩
    · contradiction

theorem nothing_null_for_network :
    let provider := (localClient "eu-west-1").provider (scripted networkThenGroup)
    let r : Reference := ⟨.network, "vpc:alpha", "VpcId"⟩
    let record : Json := .object [("VpcId", .string "vpc-1")]
    let run := (resolve "aws:ec2:vpc:alpha:VpcId" none false).run provider []
    ((r.find none).run provider []).outcome = .ok record ∧ record ≠ .null ∧ NullFree record ∧
      Reference.parse "aws:ec2:vpc:alpha:VpcId" = .ok r ∧
      r.resource ∈ [.cacheCluster, .dbInstance, .network] ∧
      run.outcome = .ok (some (.string "vpc-1")) ∧
      ∃ v, run.outcome = .ok (some v) ∧ NullFree v := by
  intro provider r record run
  obtain ⟨log, request, hp⟩ := Client.prepare_ok (q := ⟨.vpcs "alpha", none⟩)
    (equipped_localClient "eu-west-1") ⟨by decide, by decide, by decide⟩ rfl [] 0
  have carried : (Call.vpcs "alpha").Carries (networkThenGroup 0) (networkThenGroup 0) :=
    .root rfl (by decide) (by decide)
  have answer : provider.answer [] ⟨.vpcs "alpha", none⟩ = _ :=
    Client.answer_of_carries hp (rfl : (scripted networkThenGroup).respond [] request = _) carried
  have found : ((r.find none).run provider []).outcome = .ok record := by
    have hn : Lookup.network none "vpc:alpha" = Lookup.vpc none "alpha" := by rfl
    rw [Reference.find, Lookup.run_debug_bind]
    dsimp only [r]
    rw [hn, Lookup.outcome_vpc, answer]
    rfl
  have parsed : Reference.parse "aws:ec2:vpc:alpha:VpcId" = .ok r := by rfl
  have outcome : run.outcome = .ok (some (.string "vpc-1")) := by
    have given : Region.given? none = none := rfl
    dsimp only [run]
    rw [run_resolve_of_ok parsed, given]
    dsimp only
    rw [found]
    rfl
  obtain ⟨records, values⟩ := nothing_null_over_network (localClient "eu-west-1")
    (scripted networkThenGroup) [] none
  have member : r.resource ∈ [.cacheCluster, .dbInstance, .network] := by decide
  obtain ⟨present, whole⟩ := records r record found
  refine ⟨found, present, whole member, parsed, member, outcome, ?_⟩
  obtain ⟨absent, -⟩ | ⟨v, hv, free⟩ := values _ r false _ parsed member outcome
  · exact absurd absent (Option.some_ne_none _)
  · exact ⟨v, outcome.trans (congrArg Except.ok hv), free⟩

end CloudLookup
