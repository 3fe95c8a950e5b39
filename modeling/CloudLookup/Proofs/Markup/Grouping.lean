import CloudLookup.Describe.Shapes
import CloudLookup.Proofs.Markup.Element
import CloudLookup.Proofs.Markup.Grown

/-! Children of one name. Their values are collected in an array of their own in the order of the
document, unless the elements of that name are lists: then the first value is an array already, and
the others are added to its items. -/
namespace CloudLookup.Markup

open Json (Members)

/-- What a name holds after one more value. An array is taken for the values before it. -/
def joined : Option Json → Json → Option Json
  | none, value => some value
  | some (.array items), value => some (.array (items ++ [value]))
  | some first, value => some (.array [first, value])

section Values

variable {name : String} {members : Members} {pairs : List (String × Json)}

theorem get?_addChild (members : Members) (p : String × Json) :
    (addChild members p).get? p.1 = joined (members.get? p.1) p.2 := by
  unfold addChild
  split
  · rename_i items held
    rw [Members.get?_insert, if_pos rfl, held, joined]
  · rename_i first single held
    rw [Members.get?_insert, if_pos rfl, held]
    cases first with
    | array items => exact absurd rfl (single items)
    | _ => rfl
  · rename_i held
    rw [Members.get?_insert, if_pos rfl, held, joined]

theorem get?_foldl_addChild (name : String) (pairs : List (String × Json)) (members : Members) :
    (pairs.foldl addChild members).get? name =
      (valuesOf name pairs).foldl joined (members.get? name) := by
  induction pairs generalizing members with
  | nil => rfl
  | cons p pairs ih =>
    rw [List.foldl_cons, ih, show p :: pairs = [p] ++ pairs from rfl, valuesOf_append,
      List.foldl_append]
    by_cases hn : p.1 = name
    · subst hn
      rw [get?_addChild, valuesOf_self, List.foldl_cons, List.foldl_nil]
    · rw [get?_addChild_of_ne members hn, valuesOf_of_ne hn, List.foldl_nil]

theorem foldl_joined_array (items values : List Json) :
    values.foldl joined (some (.array items)) = some (.array (items ++ values)) := by
  induction values generalizing items with
  | nil => rw [List.foldl_nil, List.append_nil]
  | cons value values ih => rw [List.foldl_cons, joined, ih, List.append_assoc, List.singleton_append]

theorem foldl_joined_single {first : Json} (single : ∀ items, first ≠ .array items)
    (value : Json) (values : List Json) :
    (first :: value :: values).foldl joined none = some (.array (first :: value :: values)) := by
  rw [List.foldl_cons, joined, List.foldl_cons]
  have both : joined (some first) value = some (.array [first, value]) := by
    cases first with
    | array items => exact absurd rfl (single items)
    | _ => rfl
  rw [both, foldl_joined_array]
  rfl

end Values

section Element

variable {shapes : Shapes} {e : Element}

theorem value_ne_array (object : e.name ∉ shapes.lists) (items : List Json) :
    e.value shapes ≠ .array items := by
  by_cases hc : e.children = []
  · rw [value_of_no_children object hc]
    exact textValue_ne_array _ _ _ _
  · rw [value_of_children object hc]
    exact Json.noConfusion

theorem member?_value (object : e.name ∉ shapes.lists) {name : String}
    (present : valuesOf name e.children.reverse ≠ []) :
    (e.value shapes).member? name = (valuesOf name e.children.reverse).foldl joined none := by
  have parent : e.children ≠ [] := by
    intro hc
    rw [hc] at present
    exact present rfl
  rw [value_of_children object parent]
  exact get?_foldl_addChild name e.children.reverse []

theorem Grown.array_iff (h : Grown shapes e) {name : String} {value : Json}
    (hv : value ∈ valuesOf name e.children.reverse) :
    (∃ items, value = .array items) ↔ name ∈ shapes.lists := by
  obtain ⟨c, -, same⟩ := h.of_mem_children (List.mem_reverse.mp (mem_valuesOf.mp hv))
  obtain ⟨rfl, rfl⟩ := Prod.mk.inj same
  constructor
  · rintro ⟨items, array⟩
    exact Decidable.byContradiction fun object => value_ne_array object items array
  · intro list
    exact ⟨_, value_of_list list⟩

end Element

theorem append_ne_cons_array (items values : List Json) :
    items ++ values ≠ .array items :: values := by
  intro same
  -- The one item would be the array that holds it.
  have single : items = [.array items] :=
    List.append_cancel_right (same : items ++ values = [.array items] ++ values)
  have smaller := congrArg sizeOf single
  simp at smaller
  omega

/-- Every document is read to the value of an element whose children's values are their own. In an
element that is no list several values of one name are the array of them exactly when the name is
not that of a list. If it is, the later values are added to the items of the first. -/
theorem repeated_grouped_iff (shapes : Shapes) :
    (∀ document root, read shapes document = .ok root →
      ∃ e : Element, Grown shapes e ∧ root = ⟨e.name, e.value shapes⟩) ∧
    ∀ e : Element, Grown shapes e →
      (∀ child ∈ e.children, ∃ c : Element, Grown shapes c ∧ child = (c.name, c.value shapes)) ∧
      (e.name ∉ shapes.lists → ∀ name first second others,
        valuesOf name e.children.reverse = first :: second :: others →
          ((e.value shapes).member? name = some (.array (first :: second :: others)) ↔
            name ∉ shapes.lists) ∧
          ∀ items, first = .array items →
            (e.value shapes).member? name = some (.array (items ++ second :: others))) := by
  refine ⟨?document, ?element⟩
  case document => exact fun document root => exists_grown_of_read
  case element =>
    intro e h
    refine ⟨fun child => h.of_mem_children, ?_⟩
    intro object name first second others values
    have present : valuesOf name e.children.reverse ≠ [] := by
      rw [values]
      exact List.cons_ne_nil _ _
    have mem : first ∈ valuesOf name e.children.reverse := by
      rw [values]
      exact List.mem_cons_self
    have collected := member?_value object present
    have listed := h.array_iff mem
    rw [values] at collected
    have added (items : List Json) (array : first = .array items) :
        (e.value shapes).member? name = some (.array (items ++ second :: others)) := by
      rw [collected, array, List.foldl_cons, joined, foldl_joined_array]
    refine ⟨⟨?_, ?_⟩, added⟩
    · intro grouped list
      obtain ⟨items, array⟩ := listed.mpr list
      rw [added items array, array] at grouped
      exact append_ne_cons_array _ _ (Json.array.inj (Option.some.inj grouped))
    · intro plain
      rw [collected, foldl_joined_single fun items array => plain (listed.mp ⟨items, array⟩)]

theorem repeated_grouped_between :
    let second := Json.object [("z", .string "2")]
    let e : Element := ⟨"R", [("x", second), ("y", .object []), ("x", .string "1")], []⟩
    read Shapes.none "<R><x>1</x><y></y><x><z>2</z></x></R>".toList =
        .ok ⟨"R", e.value Shapes.none⟩ ∧
      Grown Shapes.none e ∧ e.name ∉ Shapes.none.lists ∧ "x" ∉ Shapes.none.lists ∧
      valuesOf "x" e.children.reverse = [.string "1", second] ∧
      (e.value Shapes.none).member? "x" = some (.array [.string "1", second]) := by
  intro second e
  have one : Grown Shapes.none ⟨"x", [], ['1']⟩ := (Grown.start ['x']).text ['1']
  have two : Grown Shapes.none ⟨"x", [("z", .string "2")], []⟩ :=
    (Grown.start ['x']).child ((Grown.start ['z']).text ['2'])
  have grown : Grown Shapes.none e :=
    (((Grown.start ['R']).child one).child (.start ['y'])).child two
  have plain (name : String) : name ∉ Shapes.none.lists := List.not_mem_nil
  have values : valuesOf "x" e.children.reverse = [.string "1", second] := by rfl
  obtain ⟨-, law⟩ := (repeated_grouped_iff Shapes.none).2 e grown
  have grouped := (law (plain _) "x" _ _ _ values).1.mpr (plain _)
  let tree := Tree.node ⟨"R", by decide, by decide⟩
    [.leaf ⟨"x", by decide, by decide⟩ "1", .node ⟨"y", by decide, by decide⟩ [],
     .node ⟨"x", by decide, by decide⟩ [.leaf ⟨"z", by decide, by decide⟩ "2"]]
  have written : tree.write = "<R><x>1</x><y></y><x><z>2</z></x></R>".toList := by
    dsimp only [tree]
    rfl
  have built : tree.built Shapes.none = e.value Shapes.none := by
    dsimp only [tree, e, second]
    rfl
  have document := read_write_built Shapes.none tree
  rw [written, built] at document
  exact ⟨document, grown, plain _, plain _, values, grouped⟩

theorem repeated_list_in_first :
    let document :=
      "<R><CacheNodes><a>1</a></CacheNodes><CacheNodes><a>2</a></CacheNodes></R>".toList
    let one := Json.array [.string "1"]
    let two := Json.array [.string "2"]
    let e : Element := ⟨"R", [("CacheNodes", two), ("CacheNodes", one)], []⟩
    let value := e.value Api.elastiCacheShapes
    read Api.elastiCacheShapes document = .ok ⟨"R", value⟩ ∧ Grown Api.elastiCacheShapes e ∧
      e.name ∉ Api.elastiCacheShapes.lists ∧
      valuesOf "CacheNodes" e.children.reverse = [one, two] ∧
      value = .object [("CacheNodes", .array [.string "1", two])] ∧
      value.member? "CacheNodes" ≠ some (.array [one, two]) := by
  intro document one two e value
  have nodes (text : Char) :
      Grown Api.elastiCacheShapes ⟨"CacheNodes", [("a", .string (String.ofList [text]))], []⟩ :=
    (Grown.start "CacheNodes".toList).child ((Grown.start ['a']).text [text])
  have grown : Grown Api.elastiCacheShapes e :=
    ((Grown.start ['R']).child (nodes '1')).child (nodes '2')
  let tree := Tree.node ⟨"R", by decide, by decide⟩
    [.node ⟨"CacheNodes", by decide, by decide⟩ [.leaf ⟨"a", by decide, by decide⟩ "1"],
     .node ⟨"CacheNodes", by decide, by decide⟩ [.leaf ⟨"a", by decide, by decide⟩ "2"]]
  have written : tree.write = document := by
    dsimp only [tree, document]
    rfl
  have built : tree.built Api.elastiCacheShapes = value := by
    dsimp only [tree, value, e, one, two]
    rfl
  have mixed : value = .object [("CacheNodes", .array [.string "1", two])] := by
    dsimp only [value, e, one, two]
    rfl
  have document := read_write_built Api.elastiCacheShapes tree
  rw [written, built] at document
  refine ⟨document, grown, by decide, by rfl, mixed, ?_⟩
  rw [mixed]
  simp [Json.member?, Members.get?, one]

end CloudLookup.Markup
