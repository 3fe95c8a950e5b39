import CloudLookup.Client.Encoding
import CloudLookup.Proofs.Markup.Reading

/-! Answers in XML. What a call gets from a document is the value of the tree that the document
carries for it. -/
namespace CloudLookup

open Markup (Tree Shapes Name valuesOf gather objectOf namedValues)

namespace XmlAnswer

theorem normalizeItems_eq_map (items : List Json) : normalizeItems items = items.map normalize := by
  induction items with
  | nil => rfl
  | cons item items ih => rw [normalizeItems, ih, List.map_cons]

theorem normalizeMembers_eq_map (members : List (String × Json)) :
    normalizeMembers members = members.map fun m => (memberName m.1, normalize m.2) := by
  induction members with
  | nil => rfl
  | cons m members ih => rw [normalizeMembers, ih, List.map_cons]

theorem normalize_array (items : List Json) :
    normalize (.array items) = .array (items.map normalize) := by
  rw [normalize, normalizeItems_eq_map]

theorem normalize_gather (values : List Json) :
    normalize (gather values) = gather (values.map normalize) := by
  match values with
  | [] => rfl
  | [_] => rfl
  | _ :: _ :: _ => exact normalize_array _

theorem normalize_textValue (shapes : Shapes) (name text : String) :
    normalize (shapes.textValue name text) = shapes.textValue name text := by
  unfold Shapes.textValue
  split
  · rfl
  · split
    · cases Text.signed? text.toList <;> rfl
    · split
      · rfl
      · split <;> rfl

theorem valuesOf_map_normalize (name : String) (pairs : List (String × Json)) :
    valuesOf name (pairs.map fun p => (p.1, normalize p.2)) =
      (valuesOf name pairs).map normalize := by
  unfold valuesOf
  rw [List.filter_map, List.map_map, List.map_map]
  rfl

def Apart (names : List String) : Prop :=
  ∀ a ∈ names, ∀ b ∈ names, memberName a = memberName b → a = b

theorem normalize_objectOf {pairs : List (String × Json)} (h : Apart (pairs.map Prod.fst)) :
    normalize (objectOf id pairs) =
      objectOf memberName (pairs.map fun p => (p.1, normalize p.2)) := by
  have hg := Markup.gathers_ofList pairs
  unfold objectOf
  rw [normalize, normalizeMembers_eq_map, List.map_map]
  refine congrArg Json.object (Json.Members.Ordered.ext (Json.Members.ordered_ofList _)
    (Json.Members.ordered_ofList _) fun name => ?_)
  by_cases hn : ∃ p ∈ pairs, memberName p.1 = name
  · obtain ⟨p, hp, rfl⟩ := hn
    -- Both objects hold what stands for the values of `p.1`, the only name that becomes this one.
    have same : ∀ q ∈ pairs, memberName q.1 = memberName p.1 → q.1 = p.1 := fun q hq =>
      h q.1 (List.mem_map_of_mem hq) p.1 (List.mem_map_of_mem hp)
    trans some (normalize (gather (valuesOf p.1 pairs)))
    · refine Json.Members.get?_ofList_eq_some
        ⟨_, List.mem_map_of_mem (hg.mem_iff.mpr ⟨⟨p, hp, rfl⟩, rfl⟩), rfl⟩ ?_
      rw [List.forall_mem_map]
      rintro ⟨n, value⟩ hm hname
      obtain ⟨⟨q, hq, rfl⟩, rfl⟩ := hg.mem_iff.mp hm
      rw [same q hq hname]
    · refine (Json.Members.get?_ofList_eq_some ⟨_, List.mem_map_of_mem hp, rfl⟩ ?_).symm
      rw [List.forall_mem_map]
      intro q hq hname
      rw [Function.comp_apply, same q hq hname, valuesOf_map_normalize, normalize_gather]
  · trans none
    · apply Json.Members.get?_ofList_eq_none
      rw [List.forall_mem_map]
      rintro ⟨n, value⟩ hm hname
      obtain ⟨⟨q, hq, rfl⟩, -⟩ := hg.mem_iff.mp hm
      exact hn ⟨q, hq, hname⟩
    · refine (Json.Members.get?_ofList_eq_none ?_).symm
      rw [List.forall_mem_map]
      intro q hq hname
      exact hn ⟨q, hq, hname⟩

def KeepsApart (shapes : Shapes) : Tree → Prop :=
  Markup.Tree.Everywhere fun name children =>
    name.text ∉ shapes.lists → Apart (children.map Markup.Tree.name)

instance (names : List String) : Decidable (Apart names) :=
  inferInstanceAs (Decidable (∀ a ∈ names, ∀ b ∈ names, memberName a = memberName b → a = b))

instance (shapes : Shapes) (t : Tree) : Decidable (KeepsApart shapes t) :=
  inferInstanceAs (Decidable (Markup.Tree.Everywhere _ t))

theorem normalize_value {shapes : Shapes} {t : Tree} (h : KeepsApart shapes t) :
    normalize (t.value shapes) = t.valueBy memberName shapes := by
  unfold Tree.value
  induction t with
  | leaf name text =>
    rw [Tree.valueBy, Tree.valueBy]
    split
    · rfl
    · exact normalize_textValue shapes _ _
  | node name children ih =>
    obtain ⟨here, below⟩ := Tree.everywhere_node.mp h
    have hc : namedValues memberName shapes children =
        (namedValues id shapes children).map fun p => (p.1, normalize p.2) := by
      rw [Markup.namedValues_eq_map, Markup.namedValues_eq_map, List.map_map]
      exact List.map_congr_left fun t ht => congrArg (t.name, ·) (ih t ht (below t ht)).symm
    rw [Tree.valueBy, Tree.valueBy, hc]
    by_cases hn : name.text ∈ shapes.lists
    · rw [if_pos hn, if_pos hn, normalize_array, List.map_map, List.map_map]
      rfl
    · rw [if_neg hn, if_neg hn, List.isEmpty_map]
      split
      · rfl
      · apply normalize_objectOf
        rw [Markup.namedValues_eq_map, List.map_map]
        exact here hn

end XmlAnswer

def Api.rename : Api → String → String
  | .ec2 => XmlAnswer.memberName
  | _ => id

namespace Call

def valueOf (c : Call) (payload : Tree) : Json := payload.valueBy c.api.rename c.api.shapes

/-- A document carries a tree to a call, as its root or as the result in its root. -/
inductive Carries (c : Call) (payload : Tree) : Tree → Prop where
  | root (api : c.api = .ec2) (once : payload.ListsOnce c.api.shapes)
    (apart : XmlAnswer.KeepsApart c.api.shapes payload) : Carries c payload payload
  | result {root : Name} {before after : List Tree} (api : c.api = .elastiCache ∨ c.api = .rds)
    (once : payload.ListsOnce c.api.shapes) (named : payload.name = c.action ++ "Result")
    (object : root.text ∉ c.api.shapes.lists)
    (others : ∀ t ∈ before ++ after, t.name ≠ payload.name) :
    Carries c payload (.node root (before ++ payload :: after))

theorem actionResult_write {shapes : Shapes} {action : String} {root : Name} {payload : Tree}
    {before after : List Tree} (object : root.text ∉ shapes.lists)
    (named : payload.name = action ++ "Result")
    (others : ∀ t ∈ before ++ after, t.name ≠ payload.name) :
    XmlAnswer.actionResult shapes action
      (Markup.Tree.node root (before ++ payload :: after)).write = .ok (payload.built shapes) := by
  have hne (ts : List Tree) (h : ∀ t ∈ ts, t.name ≠ payload.name) :
      ∀ q ∈ ts.map fun t => (t.name, t.built shapes), q.1 ≠ payload.name :=
    List.forall_mem_map.mpr h
  obtain ⟨hb, ha⟩ := List.forall_mem_append.mp others
  have hv := Markup.get?_foldl_addChild_once (p := (payload.name, payload.built shapes))
    (hne before hb) (hne after ha)
  unfold XmlAnswer.actionResult
  rw [Markup.read_write_built, Tree.built, Markup.value_of_no_text object, ← named,
    Markup.builtAll_eq_map, List.map_append, List.map_cons]
  simp only [Except.map, Json.member?]
  rw [hv]
  rfl

theorem answer_of_carries {c : Call} {payload document : Tree} (h : c.Carries payload document) :
    c.answer document.write = .ok (c.valueOf payload) := by
  unfold Call.answer Call.valueOf
  cases h with
  | root api once apart =>
    rw [api] at once apart ⊢
    have hb : payload.built Api.ec2Shapes = payload.value Api.ec2Shapes :=
      Markup.built_eq_value once
    have hn : XmlAnswer.normalize (payload.value Api.ec2Shapes) = _ :=
      XmlAnswer.normalize_value apart
    simp only [Api.protocol, Api.rename, XmlAnswer.normalizedRoot]
    rw [Markup.read_write_built, Except.map, hb, hn]
    rfl
  | result api once named object others =>
    have hb := Markup.built_eq_value once
    obtain api | api := api
    · rw [api] at object hb ⊢
      simp only [Api.protocol, Api.rename]
      rw [actionResult_write object named others, hb]
      rfl
    · rw [api] at object hb ⊢
      simp only [Api.protocol, Api.rename]
      rw [actionResult_write object named others, hb]
      rfl

end Call

end CloudLookup
