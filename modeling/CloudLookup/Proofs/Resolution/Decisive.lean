import CloudLookup.Proofs.Resolution.Questions

/-! The part of an answer that decides a lookup. The record is the first item of a list, a member
that is not null or the only item of a list, and nothing else in the answer counts. -/
namespace CloudLookup.Lookup

inductive Rule where
  | first (list : String)
  | present (name : String)
  | only (list : String)

namespace Rule

variable {what key : String} {answer other : Json} {outcome outcome' : Except ResolveError Json}

def IsRecord (answer record : Json) : Rule → Prop
  | first list => ∃ rest, answer.member? list = some (.array (record :: rest))
  | present name => answer.member? name = some record ∧ record ≠ .null
  | only list => answer.member? list = some (.array [record])

def AreSeveral (answer : Json) (count : Nat) : Rule → Prop
  | only list =>
    ∃ items, answer.member? list = some (.array items) ∧ items.length = count ∧ 2 ≤ count
  | _ => False

/-- The outcome is the record that the answer holds, the error that there are several, or else the
error that there is none. -/
structure Decides (what key : String) (rule : Rule) (answer : Json)
    (outcome : Except ResolveError Json) : Prop where
  ok_iff : ∀ record, outcome = .ok record ↔ rule.IsRecord answer record
  ambiguous_iff : ∀ count, outcome = .error (.ambiguous key count) ↔ rule.AreSeveral answer count
  missing : (∀ record, ¬ rule.IsRecord answer record) →
    (∀ count, ¬ rule.AreSeveral answer count) → outcome = .error (.notFound what key)

/-- Two answers have the same decisive part: the member that counts, or its first item. -/
def Same (answer other : Json) : Rule → Prop
  | first list => answer.member? list = other.member? list ∨
    ∃ record rest rest', answer.member? list = some (.array (record :: rest)) ∧
      other.member? list = some (.array (record :: rest'))
  | present name => answer.member? name = other.member? name
  | only list => answer.member? list = other.member? list

theorem decides_found {rule : Rule} {record? : Option Json}
    (h : ∀ record, record? = some record ↔ rule.IsRecord answer record)
    (single : ∀ count, ¬ rule.AreSeveral answer count) :
    Decides what key rule answer (found what key record?) := by
  cases record? with
  | none =>
    constructor
    · intro record
      simp [found, ← h]
    · intro count
      simp [found, single count]
    · intro _ _
      rfl
  | some found =>
    constructor
    · intro record
      simp [Lookup.found, ← h]
    · intro count
      simp [Lookup.found, single count]
    · intro unfound _
      exact absurd ((h found).mp rfl) (unfound found)

theorem decides_first (list : String) :
    Decides what key (.first list) answer (found what key (first? list answer)) := by
  apply decides_found
  · intro record
    exact first?_eq_some_iff
  · simp [AreSeveral]

theorem decides_present (name : String) :
    Decides what key (.present name) answer (found what key (present? name answer)) := by
  apply decides_found
  · intro record
    rw [present?, Option.filter_eq_some_iff]
    cases record <;> simp [IsRecord, Json.isNull]
  · simp [AreSeveral]

theorem decides_only (list : String) :
    Decides "RDS database" key (.only list) answer (foundOnly key (items list answer)) := by
  -- A member that is no array counts as an empty one.
  cases listed : answer.member? list with
  | none => constructor <;> simp [IsRecord, AreSeveral, items, listed, foundOnly]
  | some value =>
    cases value with
    | array records =>
      match records with
      | [] => constructor <;> simp [IsRecord, AreSeveral, items, listed, foundOnly]
      | [record] => constructor <;> simp [IsRecord, AreSeveral, items, listed, foundOnly]
      | record :: next :: rest =>
        constructor <;> simp [IsRecord, AreSeveral, items, listed, foundOnly]
    | _ => constructor <;> simp [IsRecord, AreSeveral, items, listed, foundOnly]

theorem Decides.unique {rule : Rule} (h : Decides what key rule answer outcome)
    (h' : Decides what key rule answer outcome') : outcome = outcome' := by
  by_cases one : ∃ record, rule.IsRecord answer record
  · obtain ⟨record, hr⟩ := one
    rw [(h.ok_iff record).mpr hr, (h'.ok_iff record).mpr hr]
  · by_cases several : ∃ count, rule.AreSeveral answer count
    · obtain ⟨count, hc⟩ := several
      rw [(h.ambiguous_iff count).mpr hc, (h'.ambiguous_iff count).mpr hc]
    · have none_found := not_exists.mp one
      have none_counted := not_exists.mp several
      rw [h.missing none_found none_counted, h'.missing none_found none_counted]

theorem Decides.of_same {rule : Rule} (same : rule.Same answer other)
    (h : Decides what key rule answer outcome) : Decides what key rule other outcome := by
  have records (record : Json) : rule.IsRecord other record ↔ rule.IsRecord answer record := by
    cases rule with
    | first list =>
      obtain same | ⟨first, rest, rest', ha, ho⟩ := same
      · simp only [IsRecord, same]
      · simp [IsRecord, ha, ho]
    | present name => simp only [IsRecord, show answer.member? name = other.member? name from same]
    | only list => simp only [IsRecord, show answer.member? list = other.member? list from same]
  have several (count : Nat) : rule.AreSeveral other count ↔ rule.AreSeveral answer count := by
    cases rule with
    | only list => simp only [AreSeveral, show answer.member? list = other.member? list from same]
    | _ => rfl
  constructor
  · intro record
    rw [records]
    exact h.ok_iff record
  · intro count
    rw [several]
    exact h.ambiguous_iff count
  · intro unfound uncounted
    simp only [records] at unfound
    simp only [several] at uncounted
    exact h.missing unfound uncounted

/-- The outcome follows from an answer by a rule, and a failure is passed on as it is. -/
structure Follows (what key : String) (rule : Rule) (answer : Except Failure Json)
    (outcome : Except ResolveError Json) : Prop where
  failed : ∀ failure, answer = .error failure → outcome = .error (.transport failure)
  decided : ∀ json, answer = .ok json → rule.Decides what key json outcome

theorem follows_concluded {rule : Rule} {conclude : Json → Except ResolveError Json}
    (h : ∀ json, rule.Decides what key json (conclude json)) (answer : Except Failure Json) :
    rule.Follows what key answer (concluded conclude answer) := by
  constructor
  · rintro failure rfl
    rfl
  · rintro json rfl
    exact h json

theorem Follows.eq_of_same {rule : Rule} {a b : Json} (same : rule.Same a b)
    (h : rule.Follows what key (.ok a) outcome) (h' : rule.Follows what key (.ok b) outcome') :
    outcome = outcome' :=
  ((h.decided a rfl).of_same same).unique (h'.decided b rfl)

end Rule

inductive Single where
  | cacheCluster
  | searchDomain
  | stream
  | table
  | dbInstance
  | vpc
  | subnet
  deriving DecidableEq, Repr

namespace Single

def find : Single → Option String → String → RecordLookup
  | cacheCluster => Lookup.cacheCluster
  | searchDomain => Lookup.searchDomain
  | stream => Lookup.stream
  | table => Lookup.table
  | dbInstance => Lookup.dbInstance
  | vpc => Lookup.vpc
  | subnet => Lookup.subnet

def call : Single → String → Call
  | cacheCluster => .cacheClusters
  | searchDomain => .elasticsearchDomain
  | stream => .stream
  | table => .table
  | dbInstance => .dbInstances
  | vpc => .vpcs
  | subnet => .subnets

def rule : Single → Rule
  | cacheCluster => .first "CacheClusters"
  | searchDomain => .present "DomainStatus"
  | stream => .present "StreamDescription"
  | table => .present "Table"
  | dbInstance => .only "DBInstances"
  | vpc => .first "Vpcs"
  | subnet => .first "Subnets"

def what : Single → String
  | cacheCluster => "ElastiCache cluster"
  | searchDomain => "ElasticSearch cluster"
  | stream => "Kinesis stream"
  | table => "DynamoDB table"
  | dbInstance => "RDS database"
  | vpc => "vpc"
  | subnet => "subnet"

end Single

section

variable (provider : Provider σ) (state : σ) (region : Option String)

theorem run_single (kind : Single) (key : String) :
    ∃ text conclude, (kind.find region key).run provider state =
        askedOnce provider state text ⟨kind.call key, region⟩ conclude ∧
      ∀ json, kind.rule.Decides kind.what key json (conclude json) := by
  cases kind with
  | cacheCluster => exact ⟨_, _, run_picked .., fun _ => Rule.decides_first _⟩
  | searchDomain => exact ⟨_, _, run_picked .., fun _ => Rule.decides_present _⟩
  | stream => exact ⟨_, _, run_picked .., fun _ => Rule.decides_present _⟩
  | table => exact ⟨_, _, run_picked .., fun _ => Rule.decides_present _⟩
  | dbInstance => exact ⟨_, _, run_dbInstance .., fun _ => Rule.decides_only _⟩
  | vpc => exact ⟨_, _, run_picked .., fun _ => Rule.decides_first _⟩
  | subnet => exact ⟨_, _, run_picked .., fun _ => Rule.decides_first _⟩

theorem single_follows (kind : Single) (key : String) :
    let run := (kind.find region key).run provider state
    let answer := provider.answer state ⟨kind.call key, region⟩
    run.asked = [⟨kind.call key, region⟩] ∧
      kind.rule.Follows kind.what key answer.outcome run.outcome := by
  obtain ⟨text, conclude, run, decides⟩ := run_single provider state region kind key
  rw [run]
  exact ⟨rfl, Rule.follows_concluded decides _⟩

def groupAnswer (network group id : String) : Answer σ :=
  provider.answer (provider.answer state ⟨.vpcs network, region⟩).state
    ⟨.securityGroups group id, region⟩

def IsGroupKey (key network group : String) : Prop :=
  key = network ++ "-" ++ group ∧ '-' ∉ network.toList ∧ network ≠ "" ∧ group ≠ ""

variable {key network group : String}

theorem splitGroupKey_of_isGroupKey (h : IsGroupKey key network group) :
    splitGroupKey key = .ok (network, group) := by
  obtain ⟨rfl, dash, hn, hg⟩ := h
  rw [splitGroupKey_append dash, if_neg (not_or.mpr ⟨hn, hg⟩)]

theorem group_of_failed (h : IsGroupKey key network group) {failure : Failure}
    (failed : (provider.answer state ⟨.vpcs network, region⟩).outcome = .error failure) :
    let run := (securityGroup region key).run provider state
    run.asked = [⟨.vpcs network, region⟩] ∧ run.outcome = .error (.transport failure) := by
  have unfound :
      ((vpc region network).run provider state).outcome = .error (.transport failure) := by
    rw [outcome_vpc, failed]
    rfl
  rw [run_securityGroup_of_vpc_error (splitGroupKey_of_isGroupKey h) unfound]
  exact ⟨asked_vpc provider region network state, rfl⟩

theorem group_follows (h : IsGroupKey key network group) {id : String}
    (named : NamesNetwork (provider.answer state ⟨.vpcs network, region⟩).outcome id) :
    let run := (securityGroup region key).run provider state
    run.asked = [⟨.vpcs network, region⟩, ⟨.securityGroups group id, region⟩] ∧
      (Rule.first "SecurityGroups").Follows "security group" s!"{group} in {id}"
        (groupAnswer provider state region network group id).outcome run.outcome := by
  rw [run_securityGroup_of_network (splitGroupKey_of_isGroupKey h) provider region state
    (networkId?_eq_some_iff.mpr named)]
  exact ⟨rfl, Rule.follows_concluded (fun _ => Rule.decides_first _) _⟩

end

/-- Every lookup concludes from the decisive part of its last answer, so it has the same outcome
with any provider whose answer has the same one, and it ends with the first failure. -/
theorem outcome_by_decisive_part (provider : Provider σ) (state : σ) (other : Provider τ)
    (state' : τ) (region : Option String) :
    (∀ (kind : Single) (key : String),
      let q : Question := ⟨kind.call key, region⟩
      let run := (kind.find region key).run provider state
      run.asked = [q] ∧
        kind.rule.Follows kind.what key (provider.answer state q).outcome run.outcome ∧
        ∀ a b, (provider.answer state q).outcome = .ok a → (other.answer state' q).outcome = .ok b →
          kind.rule.Same a b → run.outcome = ((kind.find region key).run other state').outcome) ∧
      ∀ key network group, IsGroupKey key network group →
        let q : Question := ⟨.vpcs network, region⟩
        let run := (securityGroup region key).run provider state
        (∀ failure, (provider.answer state q).outcome = .error failure →
          run.asked = [q] ∧ run.outcome = .error (.transport failure)) ∧
        ∀ id, NamesNetwork (provider.answer state q).outcome id →
          let last := (groupAnswer provider state region network group id).outcome
          run.asked = [q, ⟨.securityGroups group id, region⟩] ∧
            (Rule.first "SecurityGroups").Follows "security group" s!"{group} in {id}" last
              run.outcome ∧
            ∀ a b, last = .ok a → NamesNetwork (other.answer state' q).outcome id →
              (groupAnswer other state' region network group id).outcome = .ok b →
              (Rule.first "SecurityGroups").Same a b →
              run.outcome = ((securityGroup region key).run other state').outcome := by
  refine ⟨?single, ?group⟩
  case single =>
    intro kind key q run
    obtain ⟨asked, follows⟩ := single_follows provider state region kind key
    refine ⟨asked, follows, ?_⟩
    intro a b answered answered' same
    obtain ⟨-, follows'⟩ := single_follows other state' region kind key
    rw [answered] at follows
    rw [answered'] at follows'
    exact follows.eq_of_same same follows'
  case group =>
    intro key network group divided q run
    refine ⟨fun failure failed => group_of_failed provider state region divided failed, ?_⟩
    intro id named last
    obtain ⟨asked, follows⟩ := group_follows provider state region divided named
    refine ⟨asked, follows, ?_⟩
    intro a b answered named' answered' same
    obtain ⟨-, follows'⟩ := group_follows other state' region divided named'
    rw [show (groupAnswer provider state region network group id).outcome = .ok a from answered]
      at follows
    rw [answered'] at follows'
    exact follows.eq_of_same same follows'

end CloudLookup.Lookup
