import CloudLookup.Proofs.Json.Members
import CloudLookup.Proofs.Markup.Tree

/-! The values of elements. Children are added to an object one after another; the invariant says
what the object holds for each name after each of them. -/
namespace CloudLookup.Markup

open Json (Members)

theorem valuesOf_append (name : String) (pairs pairs' : List (String × Json)) :
    valuesOf name (pairs ++ pairs') = valuesOf name pairs ++ valuesOf name pairs' := by
  unfold valuesOf
  rw [List.filter_append, List.map_append]

@[simp] theorem valuesOf_self (p : String × Json) : valuesOf p.1 [p] = [p.2] := by
  simp [valuesOf]

theorem valuesOf_of_ne {name : String} {p : String × Json} (h : p.1 ≠ name) :
    valuesOf name [p] = [] := by
  simp [valuesOf, h]

theorem mem_valuesOf {name : String} {value : Json} {pairs : List (String × Json)} :
    value ∈ valuesOf name pairs ↔ (name, value) ∈ pairs := by
  unfold valuesOf
  rw [List.mem_map]
  constructor
  · rintro ⟨p, hp, rfl⟩
    obtain ⟨hp, hn⟩ := List.mem_filter.mp hp
    rwa [← of_decide_eq_true hn]
  · intro h
    exact ⟨_, List.mem_filter.mpr ⟨h, decide_eq_true rfl⟩, rfl⟩

def gathered? : List Json → Option Json
  | [] => none
  | value :: values => some (gather (value :: values))

theorem gathered?_of_ne_nil {values : List Json} (h : values ≠ []) :
    gathered? values = some (gather values) := by
  obtain ⟨value, values, rfl⟩ := List.exists_cons_of_ne_nil h
  rfl

/-- The members hold the values of every name. -/
structure Gathers (members : Members) (pairs : List (String × Json)) : Prop where
  ordered : members.Ordered
  holds : ∀ name, members.get? name = gathered? (valuesOf name pairs)

theorem Gathers.mem_iff {members : Members} {pairs : List (String × Json)}
    (h : Gathers members pairs) {name : String} {value : Json} :
    (name, value) ∈ members ↔ (∃ p ∈ pairs, p.1 = name) ∧ value = gather (valuesOf name pairs) := by
  have hg := h.holds name
  constructor
  · intro hm
    rw [Members.get?_eq_some_of_mem h.ordered hm] at hg
    have hne : valuesOf name pairs ≠ [] := by
      intro hv
      rw [hv] at hg
      contradiction
    rw [gathered?_of_ne_nil hne] at hg
    obtain ⟨v, hv⟩ := List.exists_mem_of_ne_nil _ hne
    exact ⟨⟨_, mem_valuesOf.mp hv, rfl⟩, Option.some.inj hg⟩
  · rintro ⟨⟨p, hp, rfl⟩, rfl⟩
    have hne := List.ne_nil_of_mem (mem_valuesOf.mpr hp)
    rw [gathered?_of_ne_nil hne] at hg
    exact Members.mem_of_get?_eq_some hg

theorem addChild_eq_insert (members : Members) (p : String × Json) :
    ∃ value, addChild members p = members.insert p.1 value := by
  unfold addChild
  split
  · exact ⟨_, rfl⟩
  · exact ⟨_, rfl⟩
  · exact ⟨_, rfl⟩

theorem ordered_addChild {members : Members} (h : members.Ordered) (p : String × Json) :
    (addChild members p).Ordered := by
  obtain ⟨value, hv⟩ := addChild_eq_insert members p
  rw [hv]
  exact Members.ordered_insert h _ _

theorem get?_addChild_of_ne (members : Members) {p : String × Json} {name : String}
    (h : p.1 ≠ name) : (addChild members p).get? name = members.get? name := by
  obtain ⟨value, hv⟩ := addChild_eq_insert members p
  rw [hv, Members.get?_insert, if_neg (Ne.symm h)]

theorem get?_foldl_addChild_of_ne {pairs : List (String × Json)} {name : String}
    (h : ∀ p ∈ pairs, p.1 ≠ name) (members : Members) :
    (pairs.foldl addChild members).get? name = members.get? name := by
  induction pairs generalizing members with
  | nil => rfl
  | cons p pairs ih =>
    obtain ⟨hp, h⟩ := List.forall_mem_cons.mp h
    rw [List.foldl_cons, ih h, get?_addChild_of_ne members hp]

theorem get?_foldl_addChild_once {before after : List (String × Json)} {p : String × Json}
    (hb : ∀ q ∈ before, q.1 ≠ p.1) (ha : ∀ q ∈ after, q.1 ≠ p.1) :
    ((before ++ p :: after).foldl addChild []).get? p.1 = some p.2 := by
  have hn := get?_foldl_addChild_of_ne hb []
  rw [Members.get?_nil] at hn
  rw [List.foldl_append, List.foldl_cons, get?_foldl_addChild_of_ne ha, addChild, hn]
  dsimp only
  rw [Members.get?_insert, if_pos rfl]

/-- A child is added. A single value of its name must not be an array: it would be taken for the
values of several children. -/
theorem Gathers.addChild {members : Members} {pairs : List (String × Json)}
    (h : Gathers members pairs) {p : String × Json}
    (hp : ∀ items, valuesOf p.1 pairs ≠ [.array items]) :
    Gathers (addChild members p) (pairs ++ [p]) := by
  refine ⟨ordered_addChild h.ordered p, fun name => ?_⟩
  rw [valuesOf_append]
  by_cases hn : p.1 = name
  · subst hn
    have hg := h.holds p.1
    rw [valuesOf_self]
    unfold Markup.addChild
    cases hv : valuesOf p.1 pairs with
    | nil =>
      rw [hv, gathered?] at hg
      rw [hg]
      dsimp only
      rw [Members.get?_insert, if_pos rfl]
      rfl
    | cons value values =>
      rw [hv, gathered?] at hg
      rw [hg]
      cases values with
      | nil =>
        rw [hv] at hp
        simp only [gather]
        split
        · rename_i items hi
          exact absurd (congrArg (· :: []) (Option.some.inj hi)) (hp items)
        · rename_i first _ hi
          rw [Members.get?_insert, if_pos rfl, ← Option.some.inj hi]
          rfl
        · contradiction
      | cons value' values =>
        dsimp only [gather]
        rw [Members.get?_insert, if_pos rfl]
        rfl
  · rw [get?_addChild_of_ne members hn, h.holds, valuesOf_of_ne hn, List.append_nil]

def Mergeable (pairs : List (String × Json)) : Prop :=
  ∀ name items, .array items ∈ valuesOf name pairs → (valuesOf name pairs).length ≤ 1

theorem gathers_foldl {pairs : List (String × Json)} (h : Mergeable pairs) :
    Gathers (pairs.foldl addChild []) pairs := by
  have general : ∀ rest done members, done ++ rest = pairs → Gathers members done →
      Gathers (rest.foldl addChild members) pairs := by
    intro rest
    induction rest with
    | nil =>
      intro done members hd hg
      rw [List.append_nil] at hd
      rwa [← hd]
    | cons p rest ih =>
      intro done members hd hg
      have hd' : (done ++ [p]) ++ rest = pairs := by rw [List.append_assoc]; exact hd
      refine ih (done ++ [p]) _ hd' (hg.addChild fun items hv => ?_)
      -- The next value would be the second of a name that has an array.
      have hp : valuesOf p.1 pairs = [.array items] ++ [p.2] ++ valuesOf p.1 rest := by
        rw [← hd', valuesOf_append, valuesOf_append, hv, valuesOf_self]
      have hlen := h p.1 items (by rw [hp]; exact List.mem_cons_self)
      rw [hp] at hlen
      simp at hlen
  exact general pairs [] [] rfl ⟨List.Pairwise.nil, fun _ => rfl⟩

theorem gathers_ofList (pairs : List (String × Json)) :
    Gathers (Members.ofList (pairs.map fun p => (p.1, gather (valuesOf p.1 pairs)))) pairs := by
  refine ⟨Members.ordered_ofList _, fun name => ?_⟩
  cases hv : valuesOf name pairs with
  | nil =>
    apply Members.get?_ofList_eq_none
    rw [List.forall_mem_map]
    rintro p hp rfl
    have hm := mem_valuesOf.mpr hp
    rw [hv] at hm
    exact List.not_mem_nil hm
  | cons value values =>
    have hm : (name, value) ∈ pairs := mem_valuesOf.mp (by rw [hv]; exact List.mem_cons_self)
    rw [gathered?, ← hv]
    apply Members.get?_ofList_eq_some ⟨_, List.mem_map_of_mem hm, rfl⟩
    rw [List.forall_mem_map]
    rintro p - rfl
    rfl

theorem foldl_addChild {pairs : List (String × Json)} (h : Mergeable pairs) :
    .object (pairs.foldl addChild []) = objectOf id pairs := by
  have hf := gathers_foldl h
  have ho := gathers_ofList pairs
  exact congrArg Json.object (hf.ordered.ext ho.ordered fun name =>
    (hf.holds name).trans (ho.holds name).symm)

mutual

def Tree.built (shapes : Shapes) : Tree → Json
  | .leaf name text => Element.value shapes ⟨name.text, [], text.toList⟩
  | .node name children => Element.value shapes ⟨name.text, (builtAll shapes children).reverse, []⟩

def builtAll (shapes : Shapes) : List Tree → List (String × Json)
  | [] => []
  | t :: ts => (t.name, t.built shapes) :: builtAll shapes ts

end

theorem builtAll_eq_map (shapes : Shapes) (ts : List Tree) :
    builtAll shapes ts = ts.map fun t => (t.name, t.built shapes) := by
  induction ts with
  | nil => rfl
  | cons t ts ih => rw [builtAll, ih, List.map_cons]

theorem scalar_eq_textValue (shapes : Shapes) (name : String) {text : String} (h : text ≠ "") :
    shapes.scalar name text = shapes.textValue name text := by
  unfold Shapes.scalar Shapes.textValue
  rw [if_neg h]
  by_cases hi : name ∈ shapes.integers
  · rw [if_pos (List.contains_iff_mem.mpr hi), if_pos hi]
    cases Text.signed? text.toList <;> rfl
  · rw [if_neg (fun hc => hi (List.contains_iff_mem.mp hc)), if_neg hi]
    by_cases hb : name ∈ shapes.booleans
    · rw [if_pos (List.contains_iff_mem.mpr hb)]
      split
      · rw [if_pos ⟨hb, rfl⟩]
      · rw [if_neg (fun hf => absurd hf.2 (by decide)), if_pos ⟨hb, rfl⟩]
      · rename_i ht hf
        rw [if_neg (fun h => ht h.2), if_neg (fun h => hf h.2)]
    · rw [if_neg (fun hc => hb (List.contains_iff_mem.mp hc)), if_neg (fun h => hb h.1),
        if_neg (fun h => hb h.1)]

theorem textValue_ne_array (shapes : Shapes) (name text : String) (items : List Json) :
    shapes.textValue name text ≠ .array items := by
  unfold Shapes.textValue
  split
  · exact Json.noConfusion
  · split
    · cases Text.signed? text.toList <;> exact Json.noConfusion
    · split
      · exact Json.noConfusion
      · split <;> exact Json.noConfusion

theorem valueBy_ne_array (rename : String → String) (shapes : Shapes) {t : Tree}
    (h : t.name ∉ shapes.lists) (items : List Json) : t.valueBy rename shapes ≠ .array items := by
  cases t with
  | leaf name text =>
    have hn : name.text ∉ shapes.lists := h
    rw [Tree.valueBy, if_neg hn]
    exact textValue_ne_array shapes _ _ _
  | node name children =>
    have hn : name.text ∉ shapes.lists := h
    rw [Tree.valueBy, if_neg hn]
    split <;> exact Json.noConfusion

theorem valuesOf_namedValues (rename : String → String) (shapes : Shapes) (name : String)
    (ts : List Tree) : (valuesOf name (namedValues rename shapes ts)).length =
      (ts.map Tree.name).count name := by
  rw [namedValues_eq_map, valuesOf, List.length_map, List.count, List.countP_map,
    List.countP_eq_length_filter, List.filter_map, List.length_map]
  rfl

theorem mergeable_namedValues (rename : String → String) {shapes : Shapes} {ts : List Tree}
    (h : ∀ list ∈ shapes.lists, (ts.map Tree.name).count list ≤ 1) :
    Mergeable (namedValues rename shapes ts) := by
  intro name items hm
  rw [valuesOf_namedValues]
  apply h name
  rw [mem_valuesOf, namedValues_eq_map] at hm
  obtain ⟨t, -, ht⟩ := List.mem_map.mp hm
  obtain ⟨rfl, hv⟩ := Prod.mk.inj ht
  exact Decidable.byContradiction fun hn => valueBy_ne_array rename shapes hn items hv

theorem value_of_list {shapes : Shapes} {e : Element} (h : e.name ∈ shapes.lists) :
    e.value shapes = .array (e.children.reverse.map Prod.snd) := by
  unfold Element.value
  dsimp only
  rw [if_pos (List.contains_iff_mem.mpr h)]

theorem value_of_no_children {shapes : Shapes} {e : Element} (h : e.name ∉ shapes.lists)
    (none : e.children = []) : e.value shapes = shapes.textValue e.name (String.ofList e.text) := by
  unfold Element.value
  dsimp only
  rw [if_neg (fun hc => h (List.contains_iff_mem.mp hc)), none, if_pos (by rfl)]
  by_cases ht : e.text = []
  · rw [ht]
    rfl
  · have present : String.ofList e.text ≠ "" := mt String.ofList_eq_empty_iff.mp ht
    rw [if_neg (mt List.isEmpty_iff.mp ht), scalar_eq_textValue shapes e.name present]

theorem value_of_children {shapes : Shapes} {e : Element} (h : e.name ∉ shapes.lists)
    (parent : e.children ≠ []) : e.value shapes = .object (e.children.reverse.foldl addChild []) := by
  unfold Element.value
  dsimp only
  rw [if_neg (fun hc => h (List.contains_iff_mem.mp hc)),
    if_neg (by rwa [List.isEmpty_iff, List.reverse_eq_nil_iff])]

theorem value_of_no_text {shapes : Shapes} {name : String} {pairs : List (String × Json)}
    (h : name ∉ shapes.lists) : Element.value shapes ⟨name, pairs.reverse, []⟩ =
      .object (pairs.foldl addChild []) := by
  by_cases hp : pairs = []
  · subst hp
    rw [value_of_no_children h rfl]
    rfl
  · rw [value_of_children h (by simpa using hp), List.reverse_reverse]

theorem built_eq_value {shapes : Shapes} {t : Tree} (h : t.ListsOnce shapes) :
    t.built shapes = t.value shapes := by
  induction t with
  | leaf name text =>
    unfold Tree.value
    rw [Tree.built, Tree.valueBy]
    by_cases hn : name.text ∈ shapes.lists
    · rw [if_pos hn, value_of_list hn]
      rfl
    · rw [if_neg hn, value_of_no_children hn rfl, String.ofList_toList]
  | node name children ih =>
    obtain _ | ⟨_, _, here, below⟩ := h
    have hc : builtAll shapes children = namedValues id shapes children := by
      rw [builtAll_eq_map, namedValues_eq_map]
      exact List.map_congr_left fun t ht => congrArg (t.name, ·) (ih t ht (below t ht))
    unfold Tree.value
    rw [Tree.built, Tree.valueBy, hc]
    by_cases hn : name.text ∈ shapes.lists
    · rw [if_pos hn, value_of_list hn, List.reverse_reverse]
    · rw [if_neg hn, value_of_no_text hn, foldl_addChild (mergeable_namedValues id (here hn))]
      split
      · rename_i hempty
        rw [List.isEmpty_iff.mp hempty]
        rfl
      · rfl

end CloudLookup.Markup
