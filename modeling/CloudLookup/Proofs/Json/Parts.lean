import CloudLookup.Proofs.Json.Members

/-! The parts of values: properties of all of them, and values without null among them. -/
namespace CloudLookup.Json

@[elab_as_elim]
theorem induct {motive : Json → Prop} (null : motive .null) (bool : ∀ b, motive (.bool b))
    (number : ∀ n, motive (.number n)) (string : ∀ s, motive (.string s))
    (array : ∀ items, (∀ value ∈ items, motive value) → motive (.array items))
    (object : ∀ members : Members, (∀ m ∈ members, motive m.2) → motive (.object members)) :
    ∀ value, motive value :=
  Json.rec (motive_1 := motive) (motive_2 := fun items => ∀ value ∈ items, motive value)
    (motive_3 := fun members => ∀ m ∈ members, motive m.2) (motive_4 := fun m => motive m.2)
    null bool number string array object (by simp)
    (fun _ _ first rest => List.forall_mem_cons.mpr ⟨first, rest⟩) (by simp)
    (fun _ _ first rest => List.forall_mem_cons.mpr ⟨first, rest⟩) (fun _ _ value => value)

/-- A value is another one, or a part of it at any depth. -/
inductive Occurs (part : Json) : Json → Prop where
  | here : Occurs part part
  | item {items : List Json} {value : Json} (listed : value ∈ items) (rest : Occurs part value) :
    Occurs part (.array items)
  | member {members : Members} {name : String} {value : Json} (named : (name, value) ∈ members)
    (rest : Occurs part value) : Occurs part (.object members)

theorem Occurs.trans {part whole value : Json} (inner : Occurs part whole)
    (outer : Occurs whole value) : Occurs part value := by
  induction outer with
  | here => exact inner
  | item listed _ ih => exact .item listed ih
  | member named _ ih => exact .member named ih

theorem Occurs.of_get? {members : Members} {name : String} {value : Json}
    (h : members.get? name = some value) : Occurs value (.object members) :=
  .member (Members.mem_of_get?_eq_some h) .here

theorem Occurs.of_member? {record value : Json} {name : String}
    (h : record.member? name = some value) : Occurs value record := by
  cases record with
  | object members => exact .of_get? h
  | _ => contradiction

def Throughout (property : Json → Prop) (value : Json) : Prop :=
  ∀ part, Occurs part value → property part

namespace Throughout

variable {property : Json → Prop}

theorem here {value : Json} (h : Throughout property value) : property value := h value .here

theorem part {part value : Json} (h : Throughout property value) (occurs : Occurs part value) :
    Throughout property part :=
  fun inner hi => h inner (hi.trans occurs)

theorem array {items : List Json} (here : property (.array items))
    (each : ∀ value ∈ items, Throughout property value) : Throughout property (.array items) := by
  rintro part (_ | ⟨listed, rest⟩)
  · exact here
  · exact each _ listed _ rest

theorem object {members : Members} (here : property (.object members))
    (each : ∀ m ∈ members, Throughout property m.2) : Throughout property (.object members) := by
  rintro part (_ | _ | ⟨named, rest⟩)
  · exact here
  · exact each _ named _ rest

end Throughout

def NullFree (value : Json) : Prop := ¬ Occurs .null value

namespace NullFree

@[simp] theorem bool (b : Bool) : NullFree (.bool b) := nofun

@[simp] theorem number (n : Number) : NullFree (.number n) := nofun

@[simp] theorem string (s : String) : NullFree (.string s) := nofun

@[simp] theorem array_iff {items : List Json} :
    NullFree (.array items) ↔ ∀ value ∈ items, NullFree value := by
  constructor
  · intro h value listed occurs
    exact h (.item listed occurs)
  · rintro h (_ | ⟨listed, rest⟩)
    exact h _ listed rest

@[simp] theorem object_iff {members : Members} :
    NullFree (.object members) ↔ ∀ m ∈ members, NullFree m.2 := by
  constructor
  · intro h m named occurs
    exact h (.member named occurs)
  · rintro h (_ | _ | ⟨named, rest⟩)
    exact h _ named rest

theorem ne_null {value : Json} (h : NullFree value) : value ≠ .null := by
  rintro rfl
  exact h .here

theorem part {part value : Json} (h : NullFree value) (occurs : Occurs part value) :
    NullFree part :=
  fun null => h (null.trans occurs)

theorem insert {members : Members} (h : NullFree (.object members)) (name : String) {value : Json}
    (hv : NullFree value) : NullFree (.object (members.insert name value)) := by
  simp only [object_iff] at h ⊢
  intro m hm
  obtain rfl | hm := Members.mem_insert hm
  · exact hv
  · exact h m hm

theorem foldl {add : Members → String × Json → Members}
    (kept : ∀ {members : Members} {child : String × Json}, NullFree (.object members) →
      NullFree child.2 → NullFree (.object (add members child)))
    {children : List (String × Json)} (h : ∀ child ∈ children, NullFree child.2)
    {members : Members} (start : NullFree (.object members)) :
    NullFree (.object (children.foldl add members)) := by
  induction children generalizing members with
  | nil => exact start
  | cons child children ih =>
    obtain ⟨hc, hs⟩ := List.forall_mem_cons.mp h
    exact ih hs (kept start hc)

theorem ofList {pairs : List (String × Json)} (h : ∀ p ∈ pairs, NullFree p.2) :
    NullFree (.object (Members.ofList pairs)) :=
  foldl (fun start hv => start.insert _ hv) h (by simp)

end NullFree

end CloudLookup.Json
