import CloudLookup.Proofs.Describe.XmlAnswer
import CloudLookup.Proofs.Record.Extract
import CloudLookup.Proofs.Text.Numeral
import Mathlib.Data.List.Nodup

/-! Values whose names are turned into those of members. When no two names in an object become one,
nothing is lost, and what a path leads to is found by the path with its names turned. -/
namespace CloudLookup.XmlAnswer

open Json (Members Throughout)
open Record (Step follow walk)

def NamesStayApart : Json → Prop
  | .object members => (members.map fun m => memberName m.1).Nodup
  | _ => True

/-- The second value is the first one with the names in its objects turned: it has the same scalars,
as many items in every array in the same order, and as many members in every object. -/
inductive SameButNames : Json → Json → Prop where
  | null : SameButNames .null .null
  | bool (b : Bool) : SameButNames (.bool b) (.bool b)
  | number (n : Json.Number) : SameButNames (.number n) (.number n)
  | string (s : String) : SameButNames (.string s) (.string s)
  | array {items items' : List Json} (length : items'.length = items.length)
    (each : ∀ (n : Nat) (item item' : Json), items[n]? = some item → items'[n]? = some item' →
      SameButNames item item') : SameButNames (.array items) (.array items')
  | object {members members' : Members} (length : members'.length = members.length)
    (named : ∀ m ∈ members, (members'.get? (memberName m.1)).isSome)
    (each : ∀ m ∈ members, ∀ value, members'.get? (memberName m.1) = some value →
      SameButNames m.2 value) : SameButNames (.object members) (.object members')

def turned : Step → Step
  | .key name => .key (memberName name)
  | .index n => .index n

section Numerals

theorem uppercase_of_isDigit {c : Char} (h : c.isDigit) : Text.uppercase c = [c] := by
  obtain ⟨low, high⟩ : 48 ≤ c.toNat ∧ c.toNat ≤ 57 := by
    simpa [Char.isDigit, UInt32.le_iff_toNat_le] using h
  have ascii : c.val < 128 := by
    rw [UInt32.lt_iff_toNat_lt]
    exact Nat.lt_of_le_of_lt high (by decide)
  have large : ¬ ('a'.val ≤ c.val ∧ c.val ≤ 'z'.val) := by
    rintro ⟨letter, -⟩
    exact absurd (Nat.le_trans (UInt32.le_iff_toNat_le.mp letter) high) (by decide)
  have kept : c.toUpper = c := dif_neg large
  rw [Text.uppercase, if_pos ascii, kept]

theorem memberName_of_digits {name : String} (h : ∀ c ∈ name.toList, c = '+' ∨ c.isDigit) :
    memberName name = name := by
  have unlisted : renamed.lookup name = none := by
    rw [List.lookup_eq_none_iff]
    intro p hp
    have lettered :
        renamed.all (fun p => p.1.toList.any fun c => !(c == '+' || c.isDigit)) = true := by decide
    obtain ⟨c, hc, other⟩ := List.any_eq_true.mp (List.all_eq_true.mp lettered p hp)
    rw [bne_iff_ne]
    rintro rfl
    obtain ⟨sign, digit⟩ : c ≠ '+' ∧ ¬ c.isDigit := by simpa using other
    exact (h c hc).elim sign digit
  rw [memberName, unlisted]
  dsimp only
  rw [← String.toList_inj, String.toList_ofList]
  cases digits : name.toList with
  | nil => rfl
  | cons c rest =>
    rw [digits] at h
    have first : Text.uppercase c = [c] := by
      obtain rfl | digit := h c List.mem_cons_self
      · rfl
      · exact uppercase_of_isDigit digit
    rw [Text.capitalize, first, List.singleton_append]

end Numerals

section Object

variable {members : Members}

theorem get?_normalizeMembers (apart : NamesStayApart (.object members)) {m : String × Json}
    (h : m ∈ members) :
    Members.get? (Members.ofList (normalizeMembers members)) (memberName m.1) =
      some (normalize m.2) := by
  rw [normalizeMembers_eq_map]
  apply Members.get?_ofList_eq_some ⟨_, List.mem_map_of_mem h, rfl⟩
  rw [List.forall_mem_map]
  intro other listed same
  rw [List.inj_on_of_nodup_map apart listed h same]

theorem length_normalizeMembers (apart : NamesStayApart (.object members)) :
    (Members.ofList (normalizeMembers members)).length = members.length := by
  rw [normalizeMembers_eq_map]
  refine (Members.perm_ofList ?_).length_eq.trans (List.length_map _)
  rw [List.map_map]
  exact apart

end Object

theorem sameButNames_normalize {value : Json} (h : Throughout NamesStayApart value) :
    SameButNames value (normalize value) := by
  induction value using Json.induct with
  | null => exact .null
  | bool b => exact .bool b
  | number n => exact .number n
  | string s => exact .string s
  | array items ih =>
    rw [normalize_array]
    refine .array (List.length_map _) fun n item item' found found' => ?_
    rw [List.getElem?_map, found] at found'
    obtain rfl := Option.some.inj found'
    have listed := List.mem_of_getElem? found
    exact ih item listed (h.part (.item listed .here))
  | object members ih =>
    have member {m : String × Json} (listed : m ∈ members) := get?_normalizeMembers h.here listed
    rw [normalize]
    refine .object (length_normalizeMembers h.here) (fun m listed => ?_)
      fun m listed value found => ?_
    · rw [member listed]
      rfl
    · rw [member listed] at found
      obtain rfl := Option.some.inj found
      exact ih m listed (h.part (.member listed .here))

section Walk

variable {value part : Json}

theorem follow_normalize {step : Step} (apart : NamesStayApart value)
    (h : follow step value = some part) :
    follow (turned step) (normalize value) = some (normalize part) := by
  cases value with
  | object members =>
    have member {name : String} (named : Members.get? members name = some part) :=
      get?_normalizeMembers apart (Members.mem_of_get?_eq_some named)
    rw [normalize]
    cases step with
    | key name => exact member h
    | index n =>
      have numeral : memberName (String.ofList (Text.decimal n)) = String.ofList (Text.decimal n) := by
        apply memberName_of_digits
        rw [String.toList_ofList]
        exact fun c hc => .inr (Text.isDigit_of_mem_decimal hc)
      have found := member h
      rwa [numeral] at found
  | array items =>
    rw [normalize_array]
    cases step with
    | key name =>
      obtain ⟨n, number, found⟩ := Option.bind_eq_some_iff.mp h
      have numeral := memberName_of_digits (Text.digits_of_unsigned? number).2
      simp only [turned, numeral, follow, number, Option.bind_some, List.getElem?_map, found,
        Option.map_some]
    | index n =>
      have found : items[n]? = some part := h
      simp only [turned, follow, List.getElem?_map, found, Option.map_some]
  | _ => cases step <;> contradiction

theorem walk_normalize {steps : List Step} (h : Throughout NamesStayApart value)
    (found : walk steps value = some part) :
    walk (steps.map turned) (normalize value) = some (normalize part) := by
  induction steps generalizing value with
  | nil =>
    obtain rfl := Option.some.inj found
    rfl
  | cons step steps ih =>
    obtain ⟨next, first, rest⟩ := Option.bind_eq_some_iff.mp found
    rw [List.map_cons, walk, follow_normalize h.here first]
    exact ih (h.part (Record.occurs_of_follow first)) rest

end Walk

/-- Nothing is lost when no names become one, and every value is found where it was, by its path with
the names turned. -/
theorem normalize_keeps_places {value : Json} (h : Throughout NamesStayApart value) :
    SameButNames value (normalize value) ∧
      ∀ (steps : List Step) (part : Json), walk steps value = some part →
        walk (steps.map turned) (normalize value) = some (normalize part) :=
  ⟨sameButNames_normalize h, fun _ _ => walk_normalize h⟩

theorem normalize_keeps_group :
    let pairs := Json.array [.null, .object [("7", .object [("groupId", .string "sg-2")])]]
    let value := Json.object [("groupId", .string "sg-1"), ("groups", pairs)]
    let steps : List Step := [.key "groups", .key "1", .index 7, .key "groupId"]
    Throughout NamesStayApart value ∧ walk steps value = some (.string "sg-2") ∧
      SameButNames value (normalize value) ∧
      steps.map turned = [.key "UserIdGroupPairs", .key "1", .index 7, .key "GroupId"] ∧
      walk [.key "UserIdGroupPairs", .key "1", .index 7, .key "GroupId"] (normalize value) =
        some (.string "sg-2") := by
  intro pairs value steps
  have null : Throughout NamesStayApart .null := by
    rintro part ⟨⟩
    trivial
  have text (s : String) : Throughout NamesStayApart (.string s) := by
    rintro part ⟨⟩
    trivial
  have one {name : String} {inner : Json} (h : Throughout NamesStayApart inner) :
      Throughout NamesStayApart (.object [(name, inner)]) :=
    .object (List.nodup_singleton _) (by simpa using h)
  have list : Throughout NamesStayApart pairs :=
    .array trivial (by simpa using ⟨null, one (one (text "sg-2"))⟩)
  have names : NamesStayApart value := by
    show List.Nodup ["GroupId", "UserIdGroupPairs"]
    decide
  have apart : Throughout NamesStayApart value :=
    .object names (by simpa using ⟨text "sg-1", list⟩)
  have leads : walk steps value = some (.string "sg-2") := by rfl
  obtain ⟨same, places⟩ := normalize_keeps_places apart
  exact ⟨apart, leads, same, by rfl, places steps _ leads⟩

end CloudLookup.XmlAnswer
