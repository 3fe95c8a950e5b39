import CloudLookup.Proofs.Record.Extract
import CloudLookup.Proofs.Resolution.Questions

/-! Security groups and their networks. A group is looked for in the very network that the reference
to the network's identifier resolves to. -/
namespace CloudLookup

def Provider.AnswersBy (provider : Provider σ) (answer : Question → Except Failure Json) : Prop :=
  ∀ state q, (provider.answer state q).outcome = answer q

namespace Reference

open Text

def isNetworkChar (c : Char) : Bool := isWord c || c == '.'

def networkIdText (network : String) : String := s!"aws:ec2:vpc:{network}:VpcId"

def groupText (network group path : String) : String :=
  s!"aws:ec2:securityGroup:{network}-{group}:{path}"

section Texts

variable {network group path : String}

theorem isRun_key_of_network (h : IsRun isNetworkChar network.toList) :
    IsRun isKeyChar network.toList := by
  refine ⟨h.1, fun c hc => ?_⟩
  have plain := h.2 c hc
  simp only [isNetworkChar, isKeyChar, Bool.or_eq_true] at plain ⊢
  exact plain.imp_left .inl

theorem parse_kindText {kind name : String} (hd : IsRun isWord kind.toList)
    (hn : IsRun isKeyChar name.toList) (hp : IsRun isPropertyChar path.toList) {s : String}
    (hs : s.toList =
      "aws:ec2:".toList ++ kind.toList ++ ':' :: name.toList ++ ':' :: path.toList) :
    parse s = .ok ⟨.network, kind ++ ":" ++ name, path⟩ := by
  have key : (kind ++ ":" ++ name).toList = kind.toList ++ ':' :: name.toList := by simp
  have text : s = (Reference.mk .network (kind ++ ":" ++ name) path).render := by
    rw [← String.toList_inj, hs, toList_render, key]
    simp [Resource.tag]
  rw [text]
  exact parse_render (.kinded hd hn key) hp

theorem parse_networkIdText (h : IsRun isNetworkChar network.toList) :
    parse (networkIdText network) = .ok ⟨.network, "vpc" ++ ":" ++ network, "VpcId"⟩ :=
  parse_kindText (by decide) (isRun_key_of_network h) (by decide) (by
    unfold networkIdText
    dsimp only [toString]
    simp)

theorem parse_groupText (hn : IsRun isNetworkChar network.toList)
    (hg : IsRun isKeyChar group.toList) (hp : IsRun isPropertyChar path.toList) :
    parse (groupText network group path) =
      .ok ⟨.network, "securityGroup" ++ ":" ++ (network ++ "-" ++ group), path⟩ := by
  refine parse_kindText (by decide) ?_ hp (by
    unfold groupText
    dsimp only [toString]
    simp)
  refine ⟨by simp, fun c hc => ?_⟩
  simp only [String.toList_append, List.mem_append] at hc
  obtain (hc | hc) | hc := hc
  · exact (isRun_key_of_network hn).2 c hc
  · obtain rfl : c = '-' := by simpa using hc
    decide
  · exact hg.2 c hc

end Texts

end Reference

theorem extract_networkId (record : Json) :
    Record.extract record "VpcId" = record.member? "VpcId" :=
  Record.extract_of_plain (by decide) (by decide) (by decide) rfl record

def groupOutcome (network group path id : String) :
    Except Failure Json → Except ResolveError (Option Json)
  | .error failure => .error (.transport failure)
  | .ok answer =>
    match Lookup.first? "SecurityGroups" answer with
    | none => .error (.notFound "security group" s!"{group} in {id}")
    | some record => (property (Reference.groupText network group path) path record).map some

theorem resolved_group (network group path id : String) (answer : Except Failure Json) :
    resolved (Reference.groupText network group path) path true
        (Lookup.concluded (fun answer => Lookup.found "security group" s!"{group} in {id}"
          (Lookup.first? "SecurityGroups" answer)) answer) =
      groupOutcome network group path id answer := by
  cases answer with
  | error failure => rfl
  | ok value =>
    simp only [Lookup.concluded, groupOutcome]
    cases Lookup.first? "SecurityGroups" value <;> rfl

/-- A group is looked for in the network that the direct resolution finds, and only there. -/
structure FollowsNetwork (answer : Question → Except Failure Json) (t : Option String)
    (network group path : String) (direct run : Run ResolveError (Option Json) σ) : Prop where
  found : ∀ id, direct.outcome = .ok (some (.string id)) →
    run.asked = [⟨.vpcs network, t⟩, ⟨.securityGroups group id, t⟩] ∧
      run.outcome = groupOutcome network group path id (answer ⟨.securityGroups group id, t⟩)
  notFound : ∀ what key, direct.outcome = .error (.notFound what key) →
    run.outcome = .error (.notFound what key)
  failed : ∀ failure, direct.outcome = .error (.transport failure) →
    run.outcome = .error (.transport failure)
  unidentified : (∀ id, direct.outcome ≠ .ok (some (.string id))) →
    (∀ what key, direct.outcome ≠ .error (.notFound what key)) →
    (∀ failure, direct.outcome ≠ .error (.transport failure)) →
    ∃ what key, run.outcome = .error (.notFound what key)
  unasked : (∀ id, direct.outcome ≠ .ok (some (.string id))) →
    ∀ q ∈ run.asked, ∀ name id, q.call ≠ .securityGroups name id

section Follows

variable {answer : Question → Except Failure Json} {t : Option String} {network group path : String}
  {direct run : Run ResolveError (Option Json) σ}

theorem not_securityGroups_of_vpcs (asked : run.asked = [⟨.vpcs network, t⟩]) :
    ∀ q ∈ run.asked, ∀ name id, q.call ≠ .securityGroups name id := by
  rw [asked]
  intro q hq
  obtain rfl := List.mem_singleton.mp hq
  intro name id
  exact Call.noConfusion

theorem followsNetwork_of_error {e : ResolveError}
    (soft : e = .notFound "vpc" network ∨ ∃ failure, e = .transport failure)
    (hd : direct.outcome = .error e) (outcome : run.outcome = .error e)
    (asked : run.asked = [⟨.vpcs network, t⟩]) :
    FollowsNetwork answer t network group path direct run where
  found id h := by
    rw [hd] at h
    contradiction
  notFound what key h := outcome.trans (hd.symm.trans h)
  failed failure h := outcome.trans (hd.symm.trans h)
  unidentified _ hn hf := by
    obtain rfl | ⟨failure, rfl⟩ := soft
    · exact absurd hd (hn _ _)
    · exact absurd hd (hf _)
  unasked _ := not_securityGroups_of_vpcs asked

theorem followsNetwork_of_record {record : Json}
    (hd : direct.outcome = (property (Reference.networkIdText network) "VpcId" record).map some)
    (named : ∀ id, record.member? "VpcId" = some (.string id) →
      run.asked = [⟨.vpcs network, t⟩, ⟨.securityGroups group id, t⟩] ∧
        run.outcome = groupOutcome network group path id (answer ⟨.securityGroups group id, t⟩))
    (unnamed : (record.member? "VpcId").bind Json.text? = none →
      run.asked = [⟨.vpcs network, t⟩] ∧
        run.outcome = .error (.notFound "VpcId for vpc" network)) :
    FollowsNetwork answer t network group path direct run := by
  unfold property at hd
  rw [extract_networkId] at hd
  have identified (id : String) :
      direct.outcome = .ok (some (.string id)) ↔ record.member? "VpcId" = some (.string id) := by
    rw [hd]
    cases record.member? "VpcId" <;> simp [Except.map]
  have hard (e : ResolveError) (he : direct.outcome = .error e) : ¬ e.isSoft := by
    rw [hd] at he
    cases hm : record.member? "VpcId" with
    | none =>
      rw [hm] at he
      obtain rfl := Except.error.inj he
      exact Bool.false_ne_true
    | some value =>
      rw [hm] at he
      contradiction
  have unidentified (h : ∀ id, direct.outcome ≠ .ok (some (.string id))) :
      (record.member? "VpcId").bind Json.text? = none := by
    cases hm : record.member? "VpcId" with
    | none => rfl
    | some value =>
      cases value with
      | string id => exact absurd ((identified id).mpr hm) (h id)
      | _ => rfl
  exact {
    found id h := named id ((identified id).mp h)
    notFound what key h := absurd rfl (hard _ h)
    failed failure h := absurd rfl (hard _ h)
    unidentified h _ _ := ⟨_, _, (unnamed (unidentified h)).2⟩
    unasked h := not_securityGroups_of_vpcs (unnamed (unidentified h)).1 }

end Follows

/-- With a provider that answers each question in one way, a group is looked for in the network that
the reference to the identifier of its network resolves to. -/
theorem resolve_group_follows_network {provider : Provider σ}
    {answer : Question → Except Failure Json} (fixed : provider.AnswersBy answer)
    {network group path : String} (hn : Text.IsRun Reference.isNetworkChar network.toList)
    (hg : Text.IsRun Reference.isKeyChar group.toList)
    (hp : Text.IsRun Reference.isPropertyChar path.toList) (region : Option String)
    (before after : σ) :
    FollowsNetwork answer (Region.given? region) network group path
      ((resolve (Reference.networkIdText network) region true).run provider before)
      ((resolve (Reference.groupText network group path) region true).run provider after) := by
  obtain ⟨-, direct⟩ := resolve_networkKind provider region true before rfl (by decide)
    (Reference.parse_networkIdText hn)
  obtain ⟨asked, outcome⟩ := resolve_networkKind provider region true after rfl (by decide)
    (Reference.parse_groupText hn hg hp)
  generalize Region.given? region = t at *
  have split : Lookup.splitGroupKey (network ++ "-" ++ group) = .ok (network, group) := by
    rw [Lookup.splitGroupKey_append (hn.not_mem (by decide)), if_neg]
    rw [← String.toList_eq_nil_iff, ← String.toList_eq_nil_iff]
    exact not_or.mpr ⟨hn.1, hg.1⟩
  have record (state : σ) : ((Lookup.vpc t network).run provider state).outcome =
      Lookup.networkRecord network (answer ⟨.vpcs network, t⟩) := by
    rw [Lookup.outcome_vpc, fixed]
  have first := Lookup.asked_vpc provider t network after
  rw [record] at direct
  cases hr : Lookup.networkRecord network (answer ⟨.vpcs network, t⟩) with
  | error e =>
    rw [hr] at direct
    rw [Lookup.run_securityGroup_of_vpc_error split ((record after).trans hr)] at asked outcome
    exact followsNetwork_of_error (Lookup.networkRecord_error hr) direct outcome
      (asked.trans first)
  | ok found =>
    rw [hr] at direct
    refine followsNetwork_of_record direct (fun id hid => ?_) (fun hid => ?_)
    · have hi : Lookup.networkId? (provider.answer after ⟨.vpcs network, t⟩).outcome = some id := by
        rw [fixed, Lookup.networkId?_of_record hr, hid]
        rfl
      rw [Lookup.run_securityGroup_of_network split provider t after hi] at asked outcome
      refine ⟨asked, ?_⟩
      rw [outcome]
      dsimp only
      rw [fixed]
      exact resolved_group ..
    · rw [Lookup.run_securityGroup_of_no_id split ((record after).trans hr) hid] at asked outcome
      exact ⟨asked.trans first, outcome⟩

def oneGroup (q : Question) : Except Failure Json :=
  if q.call = .vpcs "alpha.1" then
    .ok (.single "Vpcs" (.array [.single "VpcId" (.string "vpc-1")]))
  else if q.call = .securityGroups "web-public" "vpc-1" then
    .ok (.single "SecurityGroups" (.array [.single "GroupId" (.string "sg-1")]))
  else .error (.reported "not found" [])

theorem resolve_group_in_network :
    let direct := (resolve "aws:ec2:vpc:alpha.1:VpcId" (some " eu-west-1") true).run
      (Provider.fixed oneGroup) ()
    let run := (resolve "aws:ec2:securityGroup:alpha.1-web-public:GroupId" (some " eu-west-1")
      true).run (Provider.fixed oneGroup) ()
    (Provider.fixed oneGroup).AnswersBy oneGroup ∧
      Text.IsRun Reference.isNetworkChar "alpha.1".toList ∧
      Text.IsRun Reference.isKeyChar "web-public".toList ∧
      Text.IsRun Reference.isPropertyChar "GroupId".toList ∧
      FollowsNetwork oneGroup (some "eu-west-1") "alpha.1" "web-public" "GroupId" direct run ∧
      direct.outcome = .ok (some (.string "vpc-1")) ∧
      run.outcome = .ok (some (.string "sg-1")) := by
  intro direct run
  have fixed : (Provider.fixed oneGroup).AnswersBy oneGroup := fun _ _ => rfl
  have hn : Text.IsRun Reference.isNetworkChar "alpha.1".toList := by decide
  have hg : Text.IsRun Reference.isKeyChar "web-public".toList := by decide
  have hp : Text.IsRun Reference.isPropertyChar "GroupId".toList := by decide
  have follows := resolve_group_follows_network fixed hn hg hp (some " eu-west-1") () ()
  have found : direct.outcome = .ok (some (.string "vpc-1")) := by rfl
  refine ⟨fixed, hn, hg, hp, follows, found, ?_⟩
  exact (follows.found "vpc-1" found).2.trans rfl

end CloudLookup
