import CloudLookup.Proofs.Lookup.Record
import CloudLookup.Proofs.Reference.Form
import CloudLookup.Proofs.Resolution.Basic
import CloudLookup.Proofs.Text.Trim

/-! What a resolution asks. Its reference dictates the calls, the answer to the first of them
decides whether there is a second, and all name the region of the argument. -/
namespace CloudLookup

inductive CallRegion : Option String → Option String → Prop where
  | absent : CallRegion none none
  | blank {r : String} (h : ∀ c ∈ r.toList, Text.isBlank c) : CallRegion (some r) none
  | named {r t : String} (h : Text.IsTrimmed r t) (present : t ≠ "") : CallRegion (some r) (some t)

theorem callRegion_given? (region : Option String) :
    CallRegion region (Region.given? region) := by
  cases region with
  | none => exact .absent
  | some r =>
    have ht := Text.isTrimmed_trim r
    unfold Region.given?
    by_cases empty : Text.trim r = ""
    · obtain ⟨before, after, hr, hb, ha⟩ := ht.cut
      rw [empty, String.toList_empty, List.append_nil] at hr
      have blank : ∀ c ∈ r.toList, Text.isBlank c := by
        intro c hc
        rw [hr, List.mem_append] at hc
        exact hc.elim (List.all_eq_true.mp hb c) (List.all_eq_true.mp ha c)
      simpa [Option.filter, empty] using CallRegion.blank blank
    · simpa [Option.filter, empty] using CallRegion.named ht empty

def Resource.call? : Resource → Option (String → Call)
  | cacheCluster => some .cacheClusters
  | searchDomain => some .elasticsearchDomain
  | stream => some .stream
  | table => some .table
  | dbInstance => some .dbInstances
  | network => none

def Resource.api : Resource → Api
  | cacheCluster => .elastiCache
  | searchDomain => .elasticsearch
  | stream => .kinesis
  | table => .dynamoDb
  | dbInstance => .rds
  | network => .ec2

theorem Resource.api_of_call? {r : Resource} {call : String → Call} (h : r.call? = some call)
    (key : String) : (call key).api = r.api := by
  cases r with
  | network => contradiction
  | _ =>
    obtain rfl := Option.some.inj h
    rfl

def NamesNetwork (answer : Except Failure Json) (id : String) : Prop :=
  ∃ value record records, answer = .ok value ∧
    value.member? "Vpcs" = some (.array (record :: records)) ∧
    record.member? "VpcId" = some (.string id)

namespace Lookup

theorem first?_eq_some_iff {name : String} {answer record : Json} :
    first? name answer = some record ↔
      ∃ records, answer.member? name = some (.array (record :: records)) := by
  unfold first?
  split
  · rename_i item items h
    rw [h]
    simp
  · rename_i h
    simp only [reduceCtorEq, false_iff]
    rintro ⟨records, hr⟩
    exact h _ _ hr

theorem networkId?_eq_some_iff {answer : Except Failure Json} {id : String} :
    networkId? answer = some id ↔ NamesNetwork answer id := by
  have text {value : Json} : value.text? = some id ↔ value = .string id := by
    cases value <;> simp [Json.text?]
  cases answer with
  | error failure => simp [networkId?, NamesNetwork]
  | ok value =>
    simp only [networkId?, NamesNetwork, Option.bind_eq_some_iff, first?_eq_some_iff, text,
      Except.ok.injEq]
    constructor
    · rintro ⟨record, ⟨records, hv⟩, _, hr, rfl⟩
      exact ⟨value, record, records, rfl, hv, hr⟩
    · rintro ⟨_, record, records, rfl, hv, hr⟩
      exact ⟨record, ⟨records, hv⟩, _, hr, rfl⟩

theorem network_otherKey {key : String} (t : Option String)
    (other : ∀ name, key ≠ "vpc:" ++ name ∧ key ≠ "subnet:" ++ name ∧
      key ≠ "securityGroup:" ++ name) :
    ∃ e, network t key = fail e ∧
      ((∃ kind, e = .unsupportedSubKind kind) ∨ ∃ reason, e = .invalidKey "ec2" key reason) := by
  by_cases hc : ':' ∈ key.toList
  · obtain ⟨kind, name, rfl, hk⟩ := Text.eq_append_of_mem ":" rfl hc
    cases hf : networkKind? kind with
    | none =>
      refine ⟨.unsupportedSubKind kind, ?_, .inl ⟨kind, rfl⟩⟩
      rw [network_append hk, hf]
    | some find =>
      obtain ⟨hv, hs, hg⟩ := other name
      obtain ⟨rfl, -⟩ | ⟨rfl, -⟩ | ⟨rfl, -⟩ := networkKind?_eq_some hf
      · exact absurd rfl hv
      · exact absurd rfl hs
      · exact absurd rfl hg
  · rw [network_of_not_mem hc]
    split
    · exact ⟨_, rfl, .inr ⟨_, rfl⟩⟩
    · exact ⟨_, rfl, .inl ⟨_, rfl⟩⟩

/-- What a lookup can ask one interface in one region: nothing, one question, or that for a network
and then that for a group in it. -/
inductive Asks (t : Option String) : Api → List Question → Prop where
  | nothing {api : Api} : Asks t api []
  | once (call : Call) : Asks t call.api [⟨call, t⟩]
  | twice (network group id : String) :
    Asks t .ec2 [⟨.vpcs network, t⟩, ⟨.securityGroups group id, t⟩]

theorem Asks.region {t : Option String} {api : Api} {asked : List Question} (h : Asks t api asked) :
    ∀ q ∈ asked, q.region = t := by
  cases h <;> simp

theorem Asks.api {t : Option String} {api : Api} {asked : List Question} (h : Asks t api asked) :
    ∀ q ∈ asked, q.call.api = api := by
  cases h <;> simp [Call.api]

theorem Asks.calls_nodup {t : Option String} {api : Api} {asked : List Question}
    (h : Asks t api asked) : (asked.map Question.call).Nodup := by
  cases h <;> simp

theorem Asks.length_le {t : Option String} {api : Api} {asked : List Question}
    (h : Asks t api asked) : asked.length ≤ 2 := by
  cases h <;> simp

variable (provider : Provider σ) (t : Option String) (state : σ)

theorem asks_securityGroup (key : String) :
    Asks t .ec2 ((securityGroup t key).run provider state).asked := by
  match h : splitGroupKey key with
  | .error e =>
    rw [run_securityGroup_of_error h]
    exact .nothing
  | .ok (network, group) =>
    match hid : networkId? (provider.answer state ⟨.vpcs network, t⟩).outcome with
    | none =>
      rw [run_securityGroup_of_no_network h provider t state hid]
      exact .once (.vpcs network)
    | some id =>
      rw [run_securityGroup_of_network h provider t state hid]
      exact .twice network group id

theorem asks_network (key : String) :
    Asks t .ec2 ((network t key).run provider state).asked := by
  by_cases hc : ':' ∈ key.toList
  · obtain ⟨kind, name, rfl, hk⟩ := Text.eq_append_of_mem ":" rfl hc
    rw [network_append hk]
    split
    · rename_i find hf
      split
      · exact .nothing
      · obtain ⟨-, rfl⟩ | ⟨-, rfl⟩ | ⟨-, rfl⟩ := networkKind?_eq_some hf
        · rw [vpc, run_picked]
          exact .once (.vpcs name)
        · rw [subnet, run_picked]
          exact .once (.subnets name)
        · exact asks_securityGroup provider t state _
    · exact .nothing
  · rw [network_of_not_mem hc]
    split <;> exact .nothing

theorem run_find_single {r : Reference} {call : String → Call}
    (h : r.resource.call? = some call) :
    ∃ text conclude, (r.find t).run provider state =
      let run := askedOnce provider state text ⟨call r.key, t⟩ conclude
      { run with
        log := ⟨.debug, s!"dispatch: service={r.resource.tag}, key={r.key}"⟩ :: run.log } := by
  unfold Reference.find
  rw [run_debug_bind]
  cases hr : r.resource with
  | network => simp [hr, Resource.call?] at h
  | cacheCluster =>
    obtain rfl : Call.cacheClusters = call := by simpa [hr, Resource.call?] using h
    rw [cacheCluster, run_picked]
    exact ⟨_, _, rfl⟩
  | searchDomain =>
    obtain rfl : Call.elasticsearchDomain = call := by simpa [hr, Resource.call?] using h
    rw [searchDomain, run_picked]
    exact ⟨_, _, rfl⟩
  | stream =>
    obtain rfl : Call.stream = call := by simpa [hr, Resource.call?] using h
    rw [stream, run_picked]
    exact ⟨_, _, rfl⟩
  | table =>
    obtain rfl : Call.table = call := by simpa [hr, Resource.call?] using h
    rw [table, run_picked]
    exact ⟨_, _, rfl⟩
  | dbInstance =>
    obtain rfl : Call.dbInstances = call := by simpa [hr, Resource.call?] using h
    rw [run_dbInstance]
    exact ⟨_, _, rfl⟩

theorem asked_find_single {r : Reference} {call : String → Call}
    (h : r.resource.call? = some call) :
    ((r.find t).run provider state).asked = [⟨call r.key, t⟩] := by
  obtain ⟨text, conclude, hr⟩ := run_find_single provider t state h
  rw [hr]
  rfl

theorem asks_find (r : Reference) :
    Asks t r.resource.api ((r.find t).run provider state).asked := by
  cases h : r.resource.call? with
  | some call =>
    rw [asked_find_single provider t state h, ← Resource.api_of_call? h r.key]
    exact .once _
  | none =>
    cases hr : r.resource with
    | network =>
      unfold Reference.find
      rw [run_debug_bind, hr]
      exact asks_network provider t state r.key
    | _ => simp [hr, Resource.call?] at h

end Lookup

private theorem name_ne_empty {reference kind name path : String}
    (h : Reference.parse reference = .ok ⟨.network, kind ++ ":" ++ name, path⟩) : name ≠ "" := by
  rintro rfl
  have hk : (kind ++ ":" ++ "").toList = kind.toList ++ [':'] := by simp
  obtain plain | ⟨kind', key, hkey, -, plain⟩ := Reference.key_of_parse h
  · apply plain.not_mem (c := ':') (by decide)
    rw [hk]
    simp
  · -- The last character would be the colon, and also the last one of the key.
    rw [hk] at hkey
    have last := congrArg List.getLast? hkey
    rw [List.getLast?_concat, List.getLast?_append, List.getLast?_cons_of_ne_nil plain.1] at last
    apply plain.not_mem (c := ':') (by decide)
    apply List.mem_of_getLast?
    cases hl : key.getLast? with
    | none => exact absurd (List.getLast?_eq_none_iff.mp hl) plain.1
    | some c => rw [hl] at last; exact last.symm

/-- A run asks what the reference dictates, in one region. -/
structure AsksAsDictated (provider : Provider σ) (state : σ) (reference : String)
    (t : Option String) (run : Run ResolveError (Option Json) σ) : Prop where
  unread : ∀ e, Reference.parse reference = .error e → run.asked = []
  single : ∀ r call, Reference.parse reference = .ok r → r.resource.call? = some call →
    run.asked = [⟨call r.key, t⟩]
  vpc : ∀ name path, Reference.parse reference = .ok ⟨.network, "vpc:" ++ name, path⟩ →
    run.asked = [⟨.vpcs name, t⟩]
  subnet : ∀ name path, Reference.parse reference = .ok ⟨.network, "subnet:" ++ name, path⟩ →
    run.asked = [⟨.subnets name, t⟩]
  undivided : ∀ key path,
    Reference.parse reference = .ok ⟨.network, "securityGroup:" ++ key, path⟩ →
    '-' ∉ key.toList → run.asked = []
  halved : ∀ network group path,
    Reference.parse reference =
      .ok ⟨.network, "securityGroup:" ++ (network ++ "-" ++ group), path⟩ →
    '-' ∉ network.toList → network = "" ∨ group = "" → run.asked = []
  group : ∀ network group path id,
    Reference.parse reference =
      .ok ⟨.network, "securityGroup:" ++ (network ++ "-" ++ group), path⟩ →
    '-' ∉ network.toList → network ≠ "" → group ≠ "" →
    NamesNetwork (provider.answer state ⟨.vpcs network, t⟩).outcome id →
    run.asked = [⟨.vpcs network, t⟩, ⟨.securityGroups group id, t⟩]
  noNetwork : ∀ network group path,
    Reference.parse reference =
      .ok ⟨.network, "securityGroup:" ++ (network ++ "-" ++ group), path⟩ →
    '-' ∉ network.toList → network ≠ "" → group ≠ "" →
    (∀ id, ¬ NamesNetwork (provider.answer state ⟨.vpcs network, t⟩).outcome id) →
    run.asked = [⟨.vpcs network, t⟩]
  otherKey : ∀ key path, Reference.parse reference = .ok ⟨.network, key, path⟩ →
    (∀ name, key ≠ "vpc:" ++ name ∧ key ≠ "subnet:" ++ name ∧ key ≠ "securityGroup:" ++ name) →
    run.asked = [] ∧
      ((∃ kind, run.outcome = .error (.unsupportedSubKind kind)) ∨
        ∃ reason, run.outcome = .error (.invalidKey "ec2" key reason))
  region : ∀ q ∈ run.asked, q.region = t
  once : (run.asked.map Question.call).Nodup

section

variable {reference : String} (provider : Provider σ) (region : Option String) (strict : Bool)
  (state : σ)

theorem asked_resolve {r : Reference} (h : Reference.parse reference = .ok r) :
    ((resolve reference region strict).run provider state).asked =
      ((r.find (Region.given? region)).run provider state).asked := by
  rw [run_resolve_of_ok h]

theorem asks_resolve {r : Reference} (h : Reference.parse reference = .ok r) :
    Lookup.Asks (Region.given? region) r.resource.api
      ((resolve reference region strict).run provider state).asked := by
  rw [asked_resolve provider region strict state h]
  exact Lookup.asks_find provider (Region.given? region) state r

theorem region_of_mem_asked {q : Question}
    (hq : q ∈ ((resolve reference region strict).run provider state).asked) :
    q.region = Region.given? region := by
  cases h : Reference.parse reference with
  | error e => simp [run_resolve_of_error h] at hq
  | ok r => exact (asks_resolve provider region strict state h).region q hq

theorem resolve_network {key path : String}
    (h : Reference.parse reference = .ok ⟨.network, key, path⟩) :
    let found := (Lookup.network (Region.given? region) key).run provider state
    ((resolve reference region strict).run provider state).asked = found.asked ∧
      ((resolve reference region strict).run provider state).outcome =
        resolved reference path strict found.outcome := by
  rw [run_resolve_of_ok h]
  unfold Reference.find
  rw [Lookup.run_debug_bind]
  dsimp only
  exact ⟨rfl, rfl⟩

theorem resolve_networkKind {kind name path : String}
    {find : Option String → String → Lookup.RecordLookup}
    (hf : Lookup.networkKind? kind = some find) (hc : ':' ∉ kind.toList)
    (h : Reference.parse reference = .ok ⟨.network, kind ++ ":" ++ name, path⟩) :
    let found := (find (Region.given? region) name).run provider state
    ((resolve reference region strict).run provider state).asked = found.asked ∧
      ((resolve reference region strict).run provider state).outcome =
        resolved reference path strict found.outcome := by
  obtain ⟨asked, outcome⟩ := resolve_network provider region strict state h
  rw [asked, outcome, Lookup.network_append hc, hf]
  dsimp only
  rw [if_neg (name_ne_empty h)]
  exact ⟨rfl, rfl⟩

private theorem run_network (kind : String) {name : String}
    {find : Option String → String → Lookup.RecordLookup}
    (hf : Lookup.networkKind? kind = some find) (hc : ':' ∉ kind.toList) {path : String}
    (h : Reference.parse reference = .ok ⟨.network, kind ++ ":" ++ name, path⟩) :
    ((resolve reference region strict).run provider state).asked =
      ((find (Region.given? region) name).run provider state).asked :=
  (resolve_networkKind provider region strict state hf hc h).1

private theorem outcome_otherKey {key path : String}
    (h : Reference.parse reference = .ok ⟨.network, key, path⟩)
    (other : ∀ name, key ≠ "vpc:" ++ name ∧ key ≠ "subnet:" ++ name ∧
      key ≠ "securityGroup:" ++ name) :
    ((resolve reference region strict).run provider state).asked = [] ∧
      ((∃ kind, ((resolve reference region strict).run provider state).outcome =
          .error (.unsupportedSubKind kind)) ∨
        ∃ reason, ((resolve reference region strict).run provider state).outcome =
          .error (.invalidKey "ec2" key reason)) := by
  obtain ⟨asked, outcome⟩ := resolve_network provider region strict state h
  obtain ⟨e, hn, he⟩ := Lookup.network_otherKey (Region.given? region) other
  rw [asked, outcome, hn]
  simp only [Lookup.run_fail, resolved, true_and]
  obtain ⟨kind, rfl⟩ | ⟨reason, rfl⟩ := he <;> simp [ResolveError.isSoft]

end

/-- Resolution asks what the reference dictates and nothing else, always in the region of the
argument, and never asks a question again. -/
theorem resolve_asks_as_dictated (provider : Provider σ) (state : σ) (reference : String)
    (region : Option String) (strict : Bool) :
    ∃ t, CallRegion region t ∧
      AsksAsDictated provider state reference t
        ((resolve reference region strict).run provider state) := by
  refine ⟨Region.given? region, callRegion_given? region, ?_⟩
  have asked {r : Reference} (h : Reference.parse reference = .ok r) :=
    asked_resolve provider region strict state h
  have group {key path : String}
      (h : Reference.parse reference = .ok ⟨.network, "securityGroup:" ++ key, path⟩) :=
    run_network provider region strict state "securityGroup"
      (rfl : Lookup.networkKind? "securityGroup" = some Lookup.securityGroup) (by decide) h
  obtain ⟨_, asks⟩ : ∃ api, Lookup.Asks (Region.given? region) api
      ((resolve reference region strict).run provider state).asked := by
    cases h : Reference.parse reference with
    | error e =>
      rw [run_resolve_of_error h]
      exact ⟨.ec2, .nothing⟩
    | ok r => exact ⟨_, asks_resolve provider region strict state h⟩
  constructor
  case unread =>
    intro e h
    rw [run_resolve_of_error h]
  case single =>
    intro r call h hc
    rw [asked h, Lookup.asked_find_single provider _ state hc]
  case vpc =>
    intro name path h
    rw [run_network provider region strict state "vpc" rfl (by decide) h, Lookup.vpc, Lookup.run_picked]
    rfl
  case subnet =>
    intro name path h
    rw [run_network provider region strict state "subnet" rfl (by decide) h,
      Lookup.subnet, Lookup.run_picked]
    rfl
  case undivided =>
    intro key path h dash
    rw [group h, Lookup.run_securityGroup_of_error (Lookup.splitGroupKey_of_not_mem dash)]
  case halved =>
    intro network group' path h dash empty
    rw [group h, Lookup.run_securityGroup_of_error
      (by rw [Lookup.splitGroupKey_append dash, if_pos empty])]
  case group =>
    intro network group' path id h dash hn hg hid
    rw [group h, Lookup.run_securityGroup_of_network
      (by rw [Lookup.splitGroupKey_append dash, if_neg (not_or.mpr ⟨hn, hg⟩)]) provider _ state
      (Lookup.networkId?_eq_some_iff.mpr hid)]
  case noNetwork =>
    intro network group' path h dash hn hg hid
    rw [group h, Lookup.run_securityGroup_of_no_network
      (by rw [Lookup.splitGroupKey_append dash, if_neg (not_or.mpr ⟨hn, hg⟩)]) provider _ state
      (Option.eq_none_iff_forall_ne_some.mpr fun id h => hid id
        (Lookup.networkId?_eq_some_iff.mp h))]
  case otherKey =>
    intro key path h other
    exact outcome_otherKey provider region strict state h other
  case region => exact asks.region
  case once => exact asks.calls_nodup

end CloudLookup
