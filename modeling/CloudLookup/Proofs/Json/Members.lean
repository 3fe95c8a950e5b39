import CloudLookup.Json.Basic

/-! Members of objects. Members in order are determined by the values of their names, and inserting
keeps the order. -/
namespace CloudLookup.Json.Members

def Ordered (members : Members) : Prop := members.Pairwise fun a b => a.1 < b.1

@[simp] theorem get?_nil (name : String) : get? [] name = none := rfl

theorem get?_cons (k : String) (v : Json) (members : Members) (name : String) :
    get? ((k, v) :: members) name = if name = k then some v else get? members name := by
  unfold get?
  rw [List.lookup_cons]
  by_cases h : name = k
  · rw [if_pos h, beq_iff_eq.mpr h]
  · rw [if_neg h, beq_eq_false_iff_ne.mpr h]

theorem get?_insert (name : String) (value : Json) (members : Members) (other : String) :
    get? (insert name value members) other =
      if other = name then some value else get? members other := by
  induction members with
  | nil => rw [insert, get?_cons]
  | cons m members ih =>
    obtain ⟨k, v⟩ := m
    unfold insert
    split
    · rw [get?_cons]
    · split
      · rename_i hk
        rw [get?_cons, get?_cons, hk]
        split <;> rfl
      · rename_i hk
        rw [get?_cons, get?_cons, ih]
        by_cases ho : other = k
        · rw [if_pos ho, if_pos ho, if_neg (fun h => hk (h.symm.trans ho))]
        · rw [if_neg ho, if_neg ho]

theorem mem_insert {name : String} {value : Json} {members : Members} {m : String × Json}
    (h : m ∈ insert name value members) : m = (name, value) ∨ m ∈ members := by
  induction members with
  | nil => exact .inl (List.mem_singleton.mp h)
  | cons m' members ih =>
    unfold insert at h
    split at h
    · exact List.mem_cons.mp h
    · split at h
      · exact (List.mem_cons.mp h).imp_right (List.mem_cons_of_mem _)
      · obtain rfl | h := List.mem_cons.mp h
        · exact .inr List.mem_cons_self
        · exact (ih h).imp_right (List.mem_cons_of_mem _)

theorem ordered_insert {members : Members} (h : Ordered members) (name : String) (value : Json) :
    Ordered (insert name value members) := by
  induction members with
  | nil => exact List.pairwise_singleton _ _
  | cons m members ih =>
    obtain ⟨k, v⟩ := m
    obtain ⟨hk, hm⟩ := List.pairwise_cons.mp h
    unfold insert
    split
    · rename_i hlt
      refine List.pairwise_cons.mpr ⟨fun m hmem => ?_, h⟩
      obtain rfl | hmem := List.mem_cons.mp hmem
      · exact hlt
      · exact String.lt_trans hlt (hk m hmem)
    · split
      · rename_i hn
        exact List.pairwise_cons.mpr ⟨fun m hmem => hn ▸ hk m hmem, hm⟩
      · rename_i hlt hn
        refine List.pairwise_cons.mpr ⟨fun m hmem => ?_, ih hm⟩
        obtain rfl | hmem := mem_insert hmem
        · exact Decidable.not_not.mp fun hge =>
            hn (String.le_antisymm (String.not_lt.mp hge) (String.not_lt.mp hlt))
        · exact hk m hmem

theorem ordered_ofList (pairs : List (String × Json)) : Ordered (ofList pairs) := by
  have general : ∀ (pairs : List (String × Json)) (members : Members), Ordered members →
      Ordered (pairs.foldl (fun members p => members.insert p.1 p.2) members) := by
    intro pairs
    induction pairs with
    | nil => intro members h; exact h
    | cons p pairs ih => intro members h; exact ih _ (ordered_insert h p.1 p.2)
  exact general pairs [] List.Pairwise.nil

theorem get?_ofList (pairs : List (String × Json)) (name : String) :
    get? (ofList pairs) name = pairs.reverse.lookup name := by
  have general : ∀ (pairs : List (String × Json)) (members : Members),
      get? (pairs.foldl (fun members p => members.insert p.1 p.2) members) name =
        (pairs.reverse.lookup name).or (get? members name) := by
    intro pairs
    induction pairs with
    | nil => intro members; rfl
    | cons p pairs ih =>
      intro members
      rw [List.foldl_cons, ih, get?_insert, List.reverse_cons, List.lookup_append, Option.or_assoc]
      congr 1
      by_cases h : name = p.1
      · rw [if_pos h, List.lookup_cons, beq_iff_eq.mpr h]
        rfl
      · rw [if_neg h, List.lookup_cons, beq_eq_false_iff_ne.mpr h]
        rfl
  have h := general pairs []
  rw [get?_nil, Option.or_none] at h
  exact h

theorem get?_ofList_eq_some {pairs : List (String × Json)} {name : String} {value : Json}
    (hn : ∃ p ∈ pairs, p.1 = name) (hv : ∀ p ∈ pairs, p.1 = name → p.2 = value) :
    get? (ofList pairs) name = some value := by
  rw [get?_ofList]
  obtain ⟨p, hp, hpn⟩ := hn
  cases hl : pairs.reverse.lookup name with
  | none =>
    have hne := List.lookup_eq_none_iff.mp hl p (List.mem_reverse.mpr hp)
    exact absurd hpn.symm (by simpa using hne)
  | some v =>
    obtain ⟨before, after, heq, -⟩ := List.lookup_eq_some_iff.mp hl
    have hm : (name, v) ∈ pairs.reverse := by
      rw [heq]
      exact List.mem_append_right _ List.mem_cons_self
    rw [← hv _ (List.mem_reverse.mp hm) rfl]

theorem get?_ofList_eq_none {pairs : List (String × Json)} {name : String}
    (hn : ∀ p ∈ pairs, p.1 ≠ name) : get? (ofList pairs) name = none := by
  rw [get?_ofList, List.lookup_eq_none_iff]
  intro p hp
  simpa using Ne.symm (hn p (List.mem_reverse.mp hp))

theorem get?_eq_none_of_forall_lt {k : String} {members : Members}
    (h : ∀ m ∈ members, k < m.1) : get? members k = none := by
  induction members with
  | nil => rfl
  | cons m members ih =>
    obtain ⟨hm, hms⟩ := List.forall_mem_cons.mp h
    rw [get?_cons, if_neg (fun he => String.lt_irrefl _ (he ▸ hm)), ih hms]

theorem get?_eq_some_of_mem {members : Members} (h : Ordered members) {name : String} {value : Json}
    (hm : (name, value) ∈ members) : get? members name = some value := by
  induction members with
  | nil => exact absurd hm List.not_mem_nil
  | cons m members ih =>
    obtain ⟨k, v⟩ := m
    obtain ⟨hk, ht⟩ := List.pairwise_cons.mp h
    rw [get?_cons]
    obtain he | hm := List.mem_cons.mp hm
    · obtain ⟨rfl, rfl⟩ := Prod.mk.inj he
      rw [if_pos rfl]
    · rw [if_neg fun he : name = k => String.lt_irrefl _ (he ▸ hk _ hm), ih ht hm]

theorem mem_of_get?_eq_some {members : Members} {name : String} {value : Json}
    (h : get? members name = some value) : (name, value) ∈ members := by
  obtain ⟨before, after, he, -⟩ := List.lookup_eq_some_iff.mp h
  rw [he]
  exact List.mem_append_right _ List.mem_cons_self

theorem first_le {k name : String} {v value : Json} {members : Members}
    (h : Ordered ((k, v) :: members)) (hn : get? ((k, v) :: members) name = some value) :
    k ≤ name := by
  obtain ⟨hk, -⟩ := List.pairwise_cons.mp h
  apply String.not_lt.mp
  intro hlt
  rw [get?_eq_none_of_forall_lt] at hn
  · contradiction
  · intro m hm
    obtain rfl | hm := List.mem_cons.mp hm
    · exact hlt
    · exact String.lt_trans hlt (hk m hm)

theorem Ordered.ext {a b : Members} (ha : Ordered a) (hb : Ordered b)
    (h : ∀ name, a.get? name = b.get? name) : a = b := by
  induction a generalizing b with
  | nil =>
    cases b with
    | nil => rfl
    | cons m b =>
      have hm := h m.1
      rw [get?_cons, if_pos rfl] at hm
      contradiction
  | cons m a ih =>
    obtain ⟨k, v⟩ := m
    obtain ⟨hk, hat⟩ := List.pairwise_cons.mp ha
    cases b with
    | nil =>
      have hm := h k
      rw [get?_cons, if_pos rfl] at hm
      contradiction
    | cons m' b =>
      obtain ⟨k', v'⟩ := m'
      obtain ⟨hk', hbt⟩ := List.pairwise_cons.mp hb
      have hk₁ := h k
      have hk₂ := h k'
      rw [get?_cons, if_pos rfl] at hk₁
      rw [get?_cons k', if_pos rfl] at hk₂
      have hkk : k = k' := String.le_antisymm (first_le ha hk₂) (first_le hb hk₁.symm)
      subst hkk
      rw [get?_cons, if_pos rfl] at hk₁
      obtain rfl : v = v' := Option.some.inj hk₁
      refine congrArg _ (ih hat hbt fun name => ?_)
      by_cases hn : name = k
      · rw [hn, get?_eq_none_of_forall_lt hk, get?_eq_none_of_forall_lt hk']
      · have hname := h name
        rwa [get?_cons, get?_cons, if_neg hn, if_neg hn] at hname

theorem perm_insert {name : String} {members : Members} (fresh : get? members name = none)
    (value : Json) : (insert name value members).Perm ((name, value) :: members) := by
  induction members with
  | nil => exact .refl _
  | cons m members ih =>
    obtain ⟨k, v⟩ := m
    rw [get?_cons] at fresh
    split at fresh
    · contradiction
    · rename_i other
      unfold insert
      rw [if_neg other]
      split
      · exact .refl _
      · exact ((ih fresh).cons _).trans (.swap ..)

theorem perm_ofList {pairs : List (String × Json)} (distinct : (pairs.map Prod.fst).Nodup) :
    (ofList pairs).Perm pairs := by
  have general : ∀ (pairs : List (String × Json)) (members : Members),
      (pairs.map Prod.fst).Nodup → (∀ p ∈ pairs, get? members p.1 = none) →
      (pairs.foldl (fun members p => members.insert p.1 p.2) members).Perm (members ++ pairs) := by
    intro pairs
    induction pairs with
    | nil =>
      intro members _ _
      rw [List.append_nil]
      exact .refl _
    | cons p pairs ih =>
      intro members distinct fresh
      obtain ⟨hp, distinct⟩ := List.nodup_cons.mp distinct
      obtain ⟨first, rest⟩ := List.forall_mem_cons.mp fresh
      refine (ih _ distinct fun q hq => ?_).trans ?_
      · have other : q.1 ≠ p.1 := fun same => hp (same ▸ List.mem_map_of_mem hq)
        rw [get?_insert, if_neg other]
        exact rest q hq
      · exact ((perm_insert first p.2).append_right pairs).trans List.perm_middle.symm
  exact general pairs [] distinct fun _ _ => rfl

end CloudLookup.Json.Members
