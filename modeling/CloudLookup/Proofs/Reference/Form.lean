import CloudLookup.Proofs.Reference.Grammar
import CloudLookup.Reference.Basic

/-! The texts that are references. The parts between the colons of a text decide what it is read as,
and writing what was read gives the text back. -/
namespace CloudLookup

theorem Resource.ofTag?_eq_some_iff {tag : String} {r : Resource} :
    ofTag? tag = some r ↔ r.tag = tag := by
  constructor
  · intro h
    simpa using List.find?_some h
  · rintro rfl
    exact ofTag?_tag r

theorem Resource.mem_tags {tag : String} : tag ∈ tags ↔ ∃ r, ofTag? tag = some r := by
  simp only [tags, List.mem_map, ofTag?_eq_some_iff]
  constructor
  · rintro ⟨r, -, h⟩
    exact ⟨r, h⟩
  · rintro ⟨r, h⟩
    exact ⟨r, by cases r <;> decide, h⟩

namespace Reference

open Text

structure IsStandard (s tag key property : List Char) : Prop where
  split : fields ':' s = ["aws".toList, tag, key, property]
  tag : IsRun isWord tag
  key : IsRun isKeyChar key
  property : IsRun isPropertyChar property

structure IsSubService (s tag kind key property : List Char) : Prop where
  split : fields ':' s = ["aws".toList, tag, kind, key, property]
  tag : IsRun isWord tag
  kind : IsRun isWord kind
  key : IsRun isKeyChar key
  property : IsRun isPropertyChar property

/-- A text with the parts of a reference. The key is one of its parts, or two with a colon. -/
inductive HasForm (s tag key property : String) : Prop where
  | standard (h : IsStandard s.toList tag.toList key.toList property.toList)
  | subService {kind name : List Char}
    (h : IsSubService s.toList tag.toList kind name property.toList)
    (joined : key.toList = kind ++ ':' :: name)

inductive FitKey (key : List Char) : Prop where
  | plain (h : IsRun isKeyChar key)
  | kinded {kind name : List Char} (hd : IsRun isWord kind) (hn : IsRun isKeyChar name)
    (joined : key = kind ++ ':' :: name)

section Shapes

variable {s tag kind key property : List Char}

theorem standard_accepts_iff :
    Shape.standard.pattern.accepts s ↔ ∃ tag key property, IsStandard s tag key property := by
  have pattern : Shape.standard.pattern =
      Pattern.literal "aws:" ++ runs [isWord, isKeyChar, isPropertyChar] := rfl
  rw [pattern, accepts_claimed_iff (by simp) (by decide)]
  constructor
  · rintro ⟨parts, split, h⟩
    obtain - | ⟨ht, - | ⟨hk, - | ⟨hp, ⟨⟩⟩⟩⟩ := h
    exact ⟨_, _, _, split, ht, hk, hp⟩
  · rintro ⟨tag, key, property, h⟩
    exact ⟨_, h.split, .cons h.tag (.cons h.key (.cons h.property .nil))⟩

theorem subService_accepts_iff :
    Shape.subService.pattern.accepts s ↔
      ∃ tag kind key property, IsSubService s tag kind key property := by
  have pattern : Shape.subService.pattern =
      Pattern.literal "aws:" ++ runs [isWord, isWord, isKeyChar, isPropertyChar] := rfl
  rw [pattern, accepts_claimed_iff (by simp) (by decide)]
  constructor
  · rintro ⟨parts, split, h⟩
    obtain - | ⟨ht, - | ⟨hd, - | ⟨hk, - | ⟨hp, ⟨⟩⟩⟩⟩⟩ := h
    exact ⟨_, _, _, _, split, ht, hd, hk, hp⟩
  · rintro ⟨tag, kind, key, property, h⟩
    exact ⟨_, h.split, .cons h.tag (.cons h.kind (.cons h.key (.cons h.property .nil)))⟩

theorem not_accepts_both :
    ¬ (Shape.standard.pattern.accepts s ∧ Shape.subService.pattern.accepts s) := by
  rw [standard_accepts_iff, subService_accepts_iff]
  rintro ⟨⟨tag, key, property, h⟩, ⟨tag', kind', key', property', h'⟩⟩
  have := h.split.symm.trans h'.split
  simp at this

theorem shape?_of_standard (h : IsStandard s tag key property) : shape? s = some .standard :=
  if_pos (standard_accepts_iff.mpr ⟨tag, key, property, h⟩)

theorem shape?_of_subService (h : IsSubService s tag kind key property) :
    shape? s = some .subService := by
  have accepted := subService_accepts_iff.mpr ⟨tag, kind, key, property, h⟩
  unfold shape?
  rw [if_neg fun ha => not_accepts_both ⟨ha, accepted⟩, if_pos accepted]

end Shapes

theorem ofParts_eq_ok_iff {rest tag key property : List Char} {r : Reference} :
    ofParts rest tag key property = .ok r ↔
      r.resource.tag.toList = tag ∧ r.key.toList = key ∧ r.property.toList = property := by
  unfold ofParts
  constructor
  · intro h
    split at h
    · rename_i resource ht
      obtain rfl := Except.ok.inj h
      simp [Resource.ofTag?_eq_some_iff.mp ht]
    · contradiction
  · rintro ⟨rfl, rfl, rfl⟩
    simp [Resource.ofTag?_tag]

theorem fields_drop {s part : List Char} {parts : List (List Char)}
    (h : fields ':' s = "aws".toList :: part :: parts) :
    fields ':' (s.drop 4) = part :: parts := by
  obtain ⟨rest, hs, hf⟩ := eq_append_of_fields h
  rw [hs]
  exact hf

section Parse

variable {s : String}

theorem parse_of_standard {tag key property : List Char}
    (h : IsStandard s.toList tag key property) :
    parse s = ofParts (s.toList.drop 4) tag key property := by
  unfold parse
  dsimp only
  rw [shape?_of_standard h, fields_drop h.split]

theorem parse_of_subService {tag kind key property : List Char}
    (h : IsSubService s.toList tag kind key property) :
    parse s = ofParts (s.toList.drop 4) tag (kind ++ ':' :: key) property := by
  unfold parse
  dsimp only
  rw [shape?_of_subService h, fields_drop h.split]

theorem parse_of_no_form (h : ∀ tag key property, ¬ HasForm s tag key property) :
    parse s = .error (.format s) := by
  have shape : shape? s.toList = none := by
    unfold shape?
    rw [if_neg, if_neg]
    · rw [subService_accepts_iff]
      rintro ⟨tag, kind, key, property, hs⟩
      have hs : IsSubService s.toList (String.ofList tag).toList kind key
          (String.ofList property).toList := by simpa using hs
      exact h _ _ _ (.subService hs String.toList_ofList)
    · rw [standard_accepts_iff]
      rintro ⟨tag, key, property, hs⟩
      have hs : IsStandard s.toList (String.ofList tag).toList (String.ofList key).toList
          (String.ofList property).toList := by simpa using hs
      exact h _ _ _ (.standard hs)
  unfold parse
  dsimp only
  rw [shape]

theorem HasForm.parse {tag key property : String} (h : HasForm s tag key property) :
    parse s = ofParts (s.toList.drop 4) tag.toList key.toList property.toList := by
  cases h with
  | standard h => exact parse_of_standard h
  | subService h joined => rw [parse_of_subService h, joined]

theorem parse_eq_ok_iff {r : Reference} :
    parse s = .ok r ↔ HasForm s r.resource.tag r.key r.property := by
  constructor
  · intro h
    by_cases hf : ∃ tag key property, HasForm s tag key property
    · obtain ⟨tag, key, property, hf⟩ := hf
      rw [hf.parse, ofParts_eq_ok_iff] at h
      simp only [String.toList_inj] at h
      obtain ⟨rfl, rfl, rfl⟩ := h
      exact hf
    · simp only [not_exists] at hf
      rw [parse_of_no_form hf] at h
      contradiction
  · intro h
    rw [h.parse]
    exact ofParts_eq_ok_iff.mpr ⟨rfl, rfl, rfl⟩

theorem HasForm.toList {tag key property : String} (h : HasForm s tag key property) :
    s.toList = "aws:".toList ++ (tag.toList ++ ':' :: key.toList ++ ':' :: property.toList) := by
  have split : join [':'] (fields ':' s.toList) = s.toList := join_fields s.toList
  rw [← split]
  cases h with
  | standard h => simp [h.split, join]
  | subService h joined => simp [h.split, join, joined]

theorem toList_render (r : Reference) :
    r.render.toList = "aws:".toList ++
      (r.resource.tag.toList ++ ':' :: r.key.toList ++ ':' :: r.property.toList) := by
  unfold render
  dsimp only [toString]
  simp

theorem render_of_parse {r : Reference} (h : parse s = .ok r) : r.render = s := by
  rw [← String.toList_inj, toList_render, (parse_eq_ok_iff.mp h).toList]

theorem key_of_parse {r : Reference} (h : parse s = .ok r) :
    IsRun isKeyChar r.key.toList ∨
      ∃ kind key, r.key.toList = kind ++ ':' :: key ∧ IsRun isWord kind ∧ IsRun isKeyChar key := by
  cases parse_eq_ok_iff.mp h with
  | standard h => exact .inl h.key
  | subService h joined => exact .inr ⟨_, _, joined, h.kind, h.key⟩

theorem isRun_tag (r : Resource) : IsRun isWord r.tag.toList := by
  cases r <;> decide

theorem fields_render {r : Reference} (hp : IsRun isPropertyChar r.property.toList) :
    fields ':' r.render.toList = "aws".toList :: r.resource.tag.toList ::
      (fields ':' r.key.toList ++ [r.property.toList]) := by
  have parts : r.render.toList = "aws".toList ++ ':' :: (r.resource.tag.toList ++ ':' ::
      (r.key.toList ++ ':' :: r.property.toList)) := by
    rw [toList_render, List.append_assoc, List.cons_append]
    rfl
  rw [parts, fields_append (by decide), fields_append ((isRun_tag _).not_mem (by decide)),
    fields_append_fields, fields_of_not_mem (hp.not_mem (by decide))]

theorem parse_render {r : Reference} (hk : FitKey r.key.toList)
    (hp : IsRun isPropertyChar r.property.toList) : parse r.render = .ok r := by
  have split := fields_render hp
  rw [parse_eq_ok_iff]
  cases hk with
  | plain hk =>
    rw [fields_of_not_mem (hk.not_mem (by decide))] at split
    exact .standard ⟨split, isRun_tag r.resource, hk, hp⟩
  | kinded hd hn joined =>
    rw [joined, fields_append (hd.not_mem (by decide)),
      fields_of_not_mem (hn.not_mem (by decide))] at split
    exact .subService ⟨split, isRun_tag r.resource, hd, hn, hp⟩ joined

end Parse

/-- A text is read by its form: a reference if it has one and its tag is known. -/
structure ReadByForm (s : String) : Prop where
  accepted : (∃ r, parse s = .ok r) ↔ ∃ tag key property, HasForm s tag key property ∧
    tag ∈ ["ecs", "ess", "kinesis", "dynamodb", "rds", "ec2"]
  parts : ∀ r, parse s = .ok r ↔ HasForm s r.resource.tag r.key r.property
  restored : ∀ r, parse s = .ok r → r.render = s
  unknown : ∀ tag key property, HasForm s tag key property →
    tag ∉ ["ecs", "ess", "kinesis", "dynamodb", "rds", "ec2"] →
    ∃ rest, parse s = .error (.unknownService rest) ∧ "aws:" ++ rest = s
  malformed : (∀ tag key property, ¬ HasForm s tag key property) → parse s = .error (.format s)
  oneShape : ¬ (Shape.standard.pattern.accepts s.toList ∧ Shape.subService.pattern.accepts s.toList)

/-- Every text is read by its form, and every reference whose key and property have one is read back
from its text. -/
theorem parse_by_form :
    (∀ s, ReadByForm s) ∧
      ∀ r : Reference, FitKey r.key.toList → IsRun isPropertyChar r.property.toList →
        parse r.render = .ok r := by
  refine ⟨fun s => ?_, fun r hk hp => parse_render hk hp⟩
  have known {tag : String} : tag ∈ ["ecs", "ess", "kinesis", "dynamodb", "rds", "ec2"] ↔
      ∃ r, Resource.ofTag? tag = some r := Resource.mem_tags
  constructor
  case accepted =>
    constructor
    · rintro ⟨r, h⟩
      exact ⟨_, _, _, parse_eq_ok_iff.mp h, known.mpr ⟨r.resource, Resource.ofTag?_tag _⟩⟩
    · rintro ⟨tag, key, property, h, ht⟩
      obtain ⟨resource, hr⟩ := known.mp ht
      obtain rfl := Resource.ofTag?_eq_some_iff.mp hr
      exact ⟨⟨resource, key, property⟩, parse_eq_ok_iff.mpr h⟩
  case parts => exact fun r => parse_eq_ok_iff
  case restored => exact fun r h => render_of_parse h
  case unknown =>
    intro tag key property h ht
    have none : Resource.ofTag? tag = none := by
      rw [Option.eq_none_iff_forall_ne_some]
      exact fun r hr => ht (known.mpr ⟨r, hr⟩)
    refine ⟨String.ofList (s.toList.drop 4), ?_, ?_⟩
    · rw [h.parse, ofParts, String.ofList_toList, none]
    · rw [← String.toList_inj, String.toList_append, h.toList]
      exact congrArg ("aws:".toList ++ ·) String.toList_ofList
  case malformed => exact parse_of_no_form
  case oneShape => exact not_accepts_both

end Reference

end CloudLookup
