import CloudLookup.Lookup.Record
import CloudLookup.Proofs.Lookup.Run
import CloudLookup.Proofs.Text.Cutting

/-! What the lookups of records ask, and what they make of the answers. All but that of a security
group ask once; that one asks for its group only when the first answer names a network. -/
namespace CloudLookup.Lookup

def found (what key : String) : Option Json → Except ResolveError Json
  | some record => .ok record
  | none => .error (.notFound what key)

def foundOnly (key : String) : List Json → Except ResolveError Json
  | [] => .error (.notFound "RDS database" key)
  | [record] => .ok record
  | records => .error (.ambiguous key records.length)

theorem orNotFound_eq (what key : String) (record : Option Json) :
    orNotFound what key record = done (found what key record) := by
  cases record <;> rfl

theorem onlyInstance_eq (key : String) (records : List Json) :
    onlyInstance key records = done (foundOnly key records) := by
  match records with
  | [] => rfl
  | [_] => rfl
  | _ :: _ :: _ => rfl

def concluded (conclude : Json → Except ResolveError Json) :
    Except Failure Json → Except ResolveError Json
  | .ok answer => conclude answer
  | .error failure => .error (.transport failure)

def askedOnce (provider : Provider σ) (state : σ) (text : String) (q : Question)
    (conclude : Json → Except ResolveError Json) : Run ResolveError Json σ :=
  let answer := provider.answer state q
  ⟨concluded conclude answer.outcome, [q], ⟨.debug, text⟩ :: answer.log, answer.state⟩

theorem run_describe_bind (provider : Provider σ) (region : Option String) (call : Call) (state : σ)
    (conclude : Json → Except ResolveError Json) :
    (describe region call >>= fun answer => done (conclude answer)).run provider state =
      let answer := provider.answer state ⟨call, region⟩
      ⟨concluded conclude answer.outcome, [⟨call, region⟩], answer.log, answer.state⟩ := by
  change (ask ⟨call, region⟩ _).run provider state = _
  simp only [run]
  cases (provider.answer state ⟨call, region⟩).outcome <;>
    simp only [andThen, run_done, concluded, List.append_nil]

theorem run_askedOnce (provider : Provider σ) (text : String) (region : Option String) (call : Call)
    (state : σ) (conclude : Json → Except ResolveError Json) :
    (debug text >>= fun _ => describe region call >>= fun answer => done (conclude answer)).run
        provider state = askedOnce provider state text ⟨call, region⟩ conclude := by
  rw [run_debug_bind, run_describe_bind]
  rfl

section Single

variable (provider : Provider σ) (region : Option String) (state : σ)

/-- All lookups that ask once but that of a database pick at most one record from the answer. -/
theorem run_picked (text what key : String) (call : Call) (pick : Json → Option Json) :
    (debug text >>= fun _ => describe region call >>= fun answer =>
        orNotFound what key (pick answer)).run provider state =
      askedOnce provider state text ⟨call, region⟩ fun answer => found what key (pick answer) := by
  simp only [orNotFound_eq]
  exact run_askedOnce ..

theorem run_dbInstance (key : String) : (dbInstance region key).run provider state =
    askedOnce provider state s!"Resolving RDS database with name {key}"
      ⟨.dbInstances key, region⟩ fun answer => foundOnly key (items "DBInstances" answer) := by
  simp only [dbInstance, onlyInstance_eq]
  exact run_askedOnce ..

end Single

def networkId? : Except Failure Json → Option String
  | .ok answer => (first? "Vpcs" answer).bind fun record => (record.member? "VpcId").bind Json.text?
  | .error _ => none

def networkRecord (network : String) : Except Failure Json → Except ResolveError Json :=
  concluded fun answer => found "vpc" network (first? "Vpcs" answer)

theorem networkRecord_error {network : String} {answer : Except Failure Json} {e : ResolveError}
    (h : networkRecord network answer = .error e) :
    e = .notFound "vpc" network ∨ ∃ failure, e = .transport failure := by
  cases answer with
  | error failure => exact .inr ⟨failure, (Except.error.inj h).symm⟩
  | ok value =>
    simp only [networkRecord, concluded] at h
    cases hf : first? "Vpcs" value with
    | none =>
      rw [hf] at h
      exact .inl (Except.error.inj h).symm
    | some record =>
      rw [hf] at h
      contradiction

theorem networkId?_of_record {network : String} {answer : Except Failure Json} {record : Json}
    (h : networkRecord network answer = .ok record) :
    networkId? answer = (record.member? "VpcId").bind Json.text? := by
  cases answer with
  | error failure => contradiction
  | ok value =>
    simp only [networkRecord, concluded] at h
    cases hf : first? "Vpcs" value with
    | none =>
      rw [hf] at h
      contradiction
    | some first =>
      rw [hf] at h
      obtain rfl := Except.ok.inj h
      simp only [networkId?, hf, Option.bind_some]

theorem outcome_vpc (provider : Provider σ) (region : Option String) (network : String) (state : σ) :
    ((vpc region network).run provider state).outcome =
      networkRecord network (provider.answer state ⟨.vpcs network, region⟩).outcome := by
  rw [vpc, run_picked]
  rfl

theorem asked_vpc (provider : Provider σ) (region : Option String) (network : String) (state : σ) :
    ((vpc region network).run provider state).asked = [⟨.vpcs network, region⟩] := by
  rw [vpc, run_picked]
  rfl

section Group

variable {key network group : String}

theorem splitGroupKey_of_not_mem (h : '-' ∉ key.toList) :
    splitGroupKey key = .error (.invalidKey "ec2" key "expected <vpcName>-<groupName>") := by
  unfold splitGroupKey
  rw [Text.splitFirst_of_not_mem h]

theorem splitGroupKey_append (h : '-' ∉ network.toList) :
    splitGroupKey (network ++ "-" ++ group) =
      if network = "" ∨ group = "" then
        .error (.invalidKey "ec2" (network ++ "-" ++ group) "expected <vpcName>-<groupName>")
      else .ok (network, group) := by
  have hs : (network ++ "-" ++ group).toList = network.toList ++ '-' :: group.toList := by
    simp only [String.toList_append, List.append_assoc]
    rfl
  unfold splitGroupKey
  rw [hs, Text.splitFirst_append h]
  simp only [Bool.or_eq_true, List.isEmpty_iff, String.toList_eq_nil_iff, String.ofList_toList]

theorem run_securityGroup_of_error {e : ResolveError} (h : splitGroupKey key = .error e)
    (provider : Provider σ) (region : Option String) (state : σ) :
    (securityGroup region key).run provider state = ⟨.error e, [], [], state⟩ := by
  unfold securityGroup
  rw [h]
  rfl

/-- The second question names the network that the first answer identifies. -/
theorem run_securityGroup_of_network (h : splitGroupKey key = .ok (network, group))
    (provider : Provider σ) (region : Option String) (state : σ) {id : String}
    (hid : networkId? (provider.answer state ⟨.vpcs network, region⟩).outcome = some id) :
    (securityGroup region key).run provider state =
      let first := provider.answer state ⟨.vpcs network, region⟩
      let second := provider.answer first.state ⟨.securityGroups group id, region⟩
      { outcome := concluded (fun answer =>
            found "security group" s!"{group} in {id}" (first? "SecurityGroups" answer))
          second.outcome
        asked := [⟨.vpcs network, region⟩, ⟨.securityGroups group id, region⟩]
        log := ⟨.debug, s!"Resolving security group {group} in vpc {network}"⟩ ::
          ⟨.debug, s!"Resolving vpc with name {network}"⟩ :: (first.log ++ second.log)
        state := second.state } := by
  cases ho : (provider.answer state ⟨.vpcs network, region⟩).outcome with
  | error failure => simp [ho, networkId?] at hid
  | ok answer =>
    simp only [ho, networkId?] at hid
    obtain ⟨record, hr, hid⟩ := Option.bind_eq_some_iff.mp hid
    have hv : ((vpc region network).run provider state).outcome = .ok record := by
      rw [vpc, run_picked]
      simp only [askedOnce, ho, concluded, hr, found]
    have hi : vpcId network record = done (.ok id) := by
      unfold vpcId
      rw [hid]
    unfold securityGroup
    rw [h]
    change (debug _ >>= fun _ => vpc region network >>= _).run provider state = _
    rw [run_debug_bind, run_bind_of_ok hv, hi, ok_bind]
    simp only [vpc, orNotFound_eq, run_describe_bind, run_askedOnce]
    rfl

theorem run_securityGroup_of_vpc_error (h : splitGroupKey key = .ok (network, group))
    {provider : Provider σ} {region : Option String} {state : σ} {e : ResolveError}
    (hv : ((vpc region network).run provider state).outcome = .error e) :
    (securityGroup region key).run provider state =
      let first := (vpc region network).run provider state
      { outcome := .error e
        asked := first.asked
        log := ⟨.debug, s!"Resolving security group {group} in vpc {network}"⟩ :: first.log
        state := first.state } := by
  unfold securityGroup
  rw [h]
  change (debug _ >>= fun _ => vpc region network >>= _).run provider state = _
  rw [run_debug_bind, run_bind_of_error hv]

theorem run_securityGroup_of_no_id (h : splitGroupKey key = .ok (network, group))
    {provider : Provider σ} {region : Option String} {state : σ} {record : Json}
    (hv : ((vpc region network).run provider state).outcome = .ok record)
    (hid : (record.member? "VpcId").bind Json.text? = none) :
    (securityGroup region key).run provider state =
      let first := (vpc region network).run provider state
      { outcome := .error (.notFound "VpcId for vpc" network)
        asked := first.asked
        log := ⟨.debug, s!"Resolving security group {group} in vpc {network}"⟩ :: first.log
        state := first.state } := by
  have missing : vpcId network record = fail (.notFound "VpcId for vpc" network) := by
    unfold vpcId
    rw [hid]
  unfold securityGroup
  rw [h]
  change (debug _ >>= fun _ => vpc region network >>= _).run provider state = _
  rw [run_debug_bind, run_bind_of_ok hv, missing, run_bind_of_error rfl]
  simp only [Run.followedBy, run_fail, List.append_nil]

theorem run_securityGroup_of_no_network (h : splitGroupKey key = .ok (network, group))
    (provider : Provider σ) (region : Option String) (state : σ)
    (hid : networkId? (provider.answer state ⟨.vpcs network, region⟩).outcome = none) :
    ((securityGroup region key).run provider state).asked = [⟨.vpcs network, region⟩] := by
  -- The lookup fails with the first question, or goes on to a record without an identifier.
  cases hv : ((vpc region network).run provider state).outcome with
  | error e =>
    rw [run_securityGroup_of_vpc_error h hv]
    exact asked_vpc provider region network state
  | ok record =>
    have hr := hv
    rw [outcome_vpc] at hr
    rw [networkId?_of_record hr] at hid
    rw [run_securityGroup_of_no_id h hv hid]
    exact asked_vpc provider region network state

end Group

theorem network_of_not_mem {key : String} (h : ':' ∉ key.toList) (region : Option String) :
    network region key =
      if (networkKind? key).isSome then fail (.invalidKey "ec2" key "expected <kind>:<name>")
      else fail (.unsupportedSubKind key) := by
  unfold network
  rw [Text.splitFirst_of_not_mem h]
  simp only [Option.getD_none, String.ofList_toList]
  cases networkKind? key <;> rfl

theorem network_append {kind name : String} (h : ':' ∉ kind.toList) (region : Option String) :
    network region (kind ++ ":" ++ name) =
      match networkKind? kind with
      | some find =>
        if name = "" then fail (.invalidKey "ec2" (kind ++ ":" ++ name) "expected <kind>:<name>")
        else find region name
      | none => fail (.unsupportedSubKind kind) := by
  have hs : (kind ++ ":" ++ name).toList = kind.toList ++ ':' :: name.toList := by
    simp only [String.toList_append, List.append_assoc]
    rfl
  unfold network
  rw [hs, Text.splitFirst_append h]
  simp only [Option.getD_some, String.ofList_toList]
  cases networkKind? kind with
  | none => rfl
  | some find =>
    have hn : (name.toList.isEmpty = true) = (name = "") := by
      rw [List.isEmpty_iff, String.toList_eq_nil_iff]
    exact ite_congr hn (fun _ => rfl) (fun _ => rfl)

theorem networkKind?_eq_some {kind : String} {find : Option String → String → RecordLookup}
    (h : networkKind? kind = some find) :
    kind = "vpc" ∧ find = vpc ∨ kind = "subnet" ∧ find = subnet ∨
      kind = "securityGroup" ∧ find = securityGroup := by
  unfold networkKind? at h
  split at h <;> simp_all

end CloudLookup.Lookup
