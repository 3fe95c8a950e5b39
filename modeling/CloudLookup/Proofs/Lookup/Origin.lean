import CloudLookup.Proofs.Json.Parts
import CloudLookup.Proofs.Resolution.Questions

/-! Where records come from. A record that is found is a part of an answer of the provider, and a
lookup that finds none does not fail for want of a property. -/
namespace CloudLookup.Lookup

open Json (Occurs)

/-- The outcome is a record out of an answer, or an error that is not about a property. -/
inductive Sought (provider : Provider σ) : Except ResolveError Json → Prop where
  | found {state : σ} {q : Question} {answer record : Json}
    (answered : (provider.answer state q).outcome = .ok answer) (part : Occurs record answer) :
    Sought provider (.ok record)
  | failed {e : ResolveError} (h : ∀ reference path names, e ≠ .extraction reference path names) :
    Sought provider (.error e)

section Answers

variable {name : String} {answer record : Json}

theorem occurs_first? (h : first? name answer = some record) : Occurs record answer := by
  obtain ⟨records, hr⟩ := first?_eq_some_iff.mp h
  exact (Occurs.item List.mem_cons_self .here).trans (.of_member? hr)

theorem occurs_present? (h : present? name answer = some record) : Occurs record answer :=
  .of_member? (Option.filter_eq_some_iff.mp h).1

theorem occurs_items (h : record ∈ items name answer) : Occurs record answer := by
  unfold items at h
  split at h
  · rename_i records hr
    exact (Occurs.item h .here).trans (.of_member? hr)
  · contradiction

variable {provider : Provider σ} {state : σ} {q : Question}

theorem sought_found {get : Json → Option Json} {what key : String}
    (part : ∀ {answer record}, get answer = some record → Occurs record answer) :
    Sought provider (concluded (fun answer => found what key (get answer))
      (provider.answer state q).outcome) := by
  cases ho : (provider.answer state q).outcome with
  | error failure => exact .failed fun _ _ _ => ResolveError.noConfusion
  | ok answer =>
    simp only [concluded]
    cases hr : get answer with
    | none => exact .failed fun _ _ _ => ResolveError.noConfusion
    | some record => exact .found ho (part hr)

theorem sought_foundOnly {key list : String} :
    Sought provider (concluded (fun answer => foundOnly key (items list answer))
      (provider.answer state q).outcome) := by
  cases ho : (provider.answer state q).outcome with
  | error failure => exact .failed fun _ _ _ => ResolveError.noConfusion
  | ok answer =>
    have part {record : Json} : record ∈ items list answer → Occurs record answer := occurs_items
    simp only [concluded]
    cases hr : items list answer with
    | nil => exact .failed fun _ _ _ => ResolveError.noConfusion
    | cons record others =>
      cases others with
      | nil => exact .found ho (part (hr ▸ List.mem_cons_self))
      | cons => exact .failed fun _ _ _ => ResolveError.noConfusion

end Answers

section Find

variable (provider : Provider σ) (region : Option String) (state : σ)

theorem sought_vpc (key : String) : Sought provider ((vpc region key).run provider state).outcome := by
  rw [vpc, run_picked]
  exact sought_found occurs_first?

theorem splitGroupKey_error {key : String} {e : ResolveError} (h : splitGroupKey key = .error e) :
    e = .invalidKey "ec2" key "expected <vpcName>-<groupName>" := by
  unfold splitGroupKey at h
  dsimp only at h
  split at h
  · exact (Except.error.inj h).symm
  · split at h
    · exact (Except.error.inj h).symm
    · contradiction

theorem sought_securityGroup (key : String) :
    Sought provider ((securityGroup region key).run provider state).outcome := by
  match h : splitGroupKey key with
  | .error e =>
    rw [run_securityGroup_of_error h]
    obtain rfl := splitGroupKey_error h
    exact .failed fun _ _ _ => ResolveError.noConfusion
  | .ok (network, group) =>
    cases hv : ((vpc region network).run provider state).outcome with
    | error e =>
      rw [run_securityGroup_of_vpc_error h hv]
      exact hv ▸ sought_vpc provider region state network
    | ok record =>
      have hr := hv
      rw [outcome_vpc] at hr
      cases hid : (record.member? "VpcId").bind Json.text? with
      | none =>
        rw [run_securityGroup_of_no_id h hv hid]
        exact .failed fun _ _ _ => ResolveError.noConfusion
      | some id =>
        rw [← networkId?_of_record hr] at hid
        rw [run_securityGroup_of_network h provider region state hid]
        exact sought_found occurs_first?

theorem sought_network (key : String) :
    Sought provider ((network region key).run provider state).outcome := by
  by_cases hc : ':' ∈ key.toList
  · obtain ⟨kind, name, rfl, hk⟩ := Text.eq_append_of_mem ":" rfl hc
    rw [network_append hk]
    split
    · rename_i find hf
      split
      · exact .failed fun _ _ _ => ResolveError.noConfusion
      · obtain ⟨-, rfl⟩ | ⟨-, rfl⟩ | ⟨-, rfl⟩ := networkKind?_eq_some hf
        · exact sought_vpc provider region state name
        · rw [subnet, run_picked]
          exact sought_found occurs_first?
        · exact sought_securityGroup provider region state name
    · exact .failed fun _ _ _ => ResolveError.noConfusion
  · rw [network_of_not_mem hc]
    split <;> exact .failed fun _ _ _ => ResolveError.noConfusion

theorem sought_find (r : Reference) :
    Sought provider ((r.find region).run provider state).outcome := by
  unfold Reference.find
  rw [run_debug_bind]
  dsimp only
  cases r.resource with
  | cacheCluster =>
    rw [cacheCluster, run_picked]
    exact sought_found occurs_first?
  | searchDomain =>
    rw [searchDomain, run_picked]
    exact sought_found occurs_present?
  | stream =>
    rw [stream, run_picked]
    exact sought_found occurs_present?
  | table =>
    rw [table, run_picked]
    exact sought_found occurs_present?
  | dbInstance =>
    rw [run_dbInstance]
    exact sought_foundOnly
  | network => exact sought_network provider region state r.key

end Find

end CloudLookup.Lookup
