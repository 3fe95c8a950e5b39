import CloudLookup.Text.Fields

/-! Cutting texts at a separator gives back the parts that were put around it. -/
namespace CloudLookup.Text

variable {separator : Char}

theorem fields_of_not_mem {s : List Char} (h : separator ∉ s) : fields separator s = [s] := by
  induction s with
  | nil => rfl
  | cons c s ih =>
    obtain ⟨hc, hs⟩ := not_or.mp (mt List.mem_cons.mpr h)
    rw [fields, if_neg (Ne.symm hc), ih hs]

theorem fields_append {part rest : List Char} (h : separator ∉ part) :
    fields separator (part ++ separator :: rest) = part :: fields separator rest := by
  induction part with
  | nil => rw [List.nil_append, fields, if_pos rfl]
  | cons c part ih =>
    obtain ⟨hc, hs⟩ := not_or.mp (mt List.mem_cons.mpr h)
    rw [List.cons_append, fields, if_neg (Ne.symm hc), ih hs]

theorem fields_ne_nil (s : List Char) : fields separator s ≠ [] := by
  cases s with
  | nil => simp [fields]
  | cons c s =>
    simp only [fields]
    split
    · simp
    · split <;> simp

theorem eq_of_fields {s part : List Char} (h : fields separator s = [part]) : s = part := by
  induction s generalizing part with
  | nil => simpa [fields] using h
  | cons c s ih =>
    simp only [fields] at h
    split at h
    · exact absurd (List.cons.inj h).2 (fields_ne_nil s)
    · split at h
      · exact absurd ‹_› (fields_ne_nil s)
      · rename_i first parts hs
        obtain ⟨rfl, rfl⟩ := List.cons.inj h
        rw [ih hs]

theorem eq_append_of_fields {s part next : List Char} {parts : List (List Char)}
    (h : fields separator s = part :: next :: parts) :
    ∃ rest, s = part ++ separator :: rest ∧ fields separator rest = next :: parts := by
  induction s generalizing part with
  | nil => simp [fields] at h
  | cons c s ih =>
    simp only [fields] at h
    split at h
    · rename_i hc
      obtain ⟨rfl, hs⟩ := List.cons.inj h
      exact ⟨s, by rw [hc, List.nil_append], hs⟩
    · split at h
      · exact absurd ‹_› (fields_ne_nil s)
      · rename_i first others hs
        obtain ⟨rfl, rfl⟩ := List.cons.inj h
        obtain ⟨rest, hr, hf⟩ := ih hs
        exact ⟨rest, by rw [hr, List.cons_append], hf⟩

theorem fields_append_fields (s t : List Char) :
    fields separator (s ++ separator :: t) = fields separator s ++ fields separator t := by
  induction s with
  | nil => exact if_pos rfl
  | cons c s ih =>
    obtain ⟨part, parts, hs⟩ :=
      List.exists_cons_of_ne_nil (show fields separator s ≠ [] from fields_ne_nil s)
    rw [List.cons_append, fields, fields, ih, hs]
    split <;> rfl

theorem mem_of_mem_fields {s part : List Char} {c : Char} (hp : part ∈ fields separator s)
    (hc : c ∈ part) : c ∈ s := by
  induction s generalizing part with
  | nil =>
    obtain rfl := List.mem_singleton.mp hp
    exact hc
  | cons d s ih =>
    obtain ⟨first, parts, hs⟩ :=
      List.exists_cons_of_ne_nil (show fields separator s ≠ [] from fields_ne_nil s)
    rw [fields, hs] at hp
    rw [hs] at ih
    split at hp
    · obtain rfl | hp := List.mem_cons.mp hp
      · contradiction
      · exact List.mem_cons_of_mem d (ih hp hc)
    · obtain rfl | hp := List.mem_cons.mp hp
      · obtain rfl | hc := List.mem_cons.mp hc
        · exact List.mem_cons_self
        · exact List.mem_cons_of_mem d (ih List.mem_cons_self hc)
      · exact List.mem_cons_of_mem d (ih (List.mem_cons_of_mem first hp) hc)

section Join

variable {mark : List Char}

theorem join_singleton (part : List Char) : join mark [part] = part := List.append_nil part

theorem join_cons {parts : List (List Char)} (h : parts ≠ []) (part : List Char) :
    join mark (part :: parts) = part ++ (mark ++ join mark parts) := by
  obtain ⟨next, parts, rfl⟩ := List.exists_cons_of_ne_nil h
  rfl

theorem join_append {parts others : List (List Char)} (hp : parts ≠ []) (ho : others ≠ []) :
    join mark (parts ++ others) = join mark parts ++ (mark ++ join mark others) := by
  induction parts with
  | nil => contradiction
  | cons part parts ih =>
    cases parts with
    | nil => rw [List.singleton_append, join_cons ho, join_singleton]
    | cons next parts =>
      have rest : next :: parts ≠ [] := List.cons_ne_nil next parts
      rw [List.cons_append, join_cons (by simp) part, ih rest, join_cons rest part]
      simp only [List.append_assoc]

theorem join_fields (s : List Char) : join [separator] (fields separator s) = s := by
  induction s with
  | nil => rfl
  | cons c s ih =>
    obtain ⟨part, parts, hs⟩ :=
      List.exists_cons_of_ne_nil (show fields separator s ≠ [] from fields_ne_nil s)
    rw [fields]
    split
    · rename_i hc
      rw [join_cons (fields_ne_nil s), ih, hc]
      rfl
    · rw [hs] at ih ⊢
      rw [← ih]
      cases parts <;> rfl

theorem fields_join {parts : List (List Char)} (some_part : parts ≠ [])
    (h : ∀ part ∈ parts, separator ∉ part) :
    fields separator (join [separator] parts) = parts := by
  induction parts with
  | nil => contradiction
  | cons part parts ih =>
    obtain ⟨hp, h⟩ := List.forall_mem_cons.mp h
    cases parts with
    | nil => rw [join_singleton, fields_of_not_mem hp]
    | cons next parts =>
      have rest : next :: parts ≠ [] := List.cons_ne_nil next parts
      rw [join_cons rest, List.singleton_append, fields_append hp, ih rest h]

end Join

theorem splitFirst_append {before after : List Char} (h : separator ∉ before) :
    splitFirst separator (before ++ separator :: after) = some (before, after) := by
  induction before with
  | nil => rw [List.nil_append, splitFirst, if_pos rfl]
  | cons c before ih =>
    obtain ⟨hc, hs⟩ := not_or.mp (mt List.mem_cons.mpr h)
    rw [List.cons_append, splitFirst, if_neg (Ne.symm hc), ih hs]
    rfl

theorem splitFirst_of_not_mem {s : List Char} (h : separator ∉ s) :
    splitFirst separator s = none := by
  induction s with
  | nil => rfl
  | cons c s ih =>
    obtain ⟨hc, hs⟩ := not_or.mp (mt List.mem_cons.mpr h)
    rw [splitFirst, if_neg (Ne.symm hc), ih hs]
    rfl

theorem afterLast_append {s : List Char} (h : separator ∉ s) (before : List Char) :
    afterLast separator (before ++ separator :: s) = s := by
  have kept : ∀ c ∈ s.reverse, decide (c ≠ separator) = true :=
    fun c hc => decide_eq_true fun he => h (he ▸ List.mem_reverse.mp hc)
  rw [afterLast, List.reverse_append, List.reverse_cons, List.append_assoc,
    List.takeWhile_append_of_pos kept, List.singleton_append,
    List.takeWhile_cons_of_neg (by simp), List.append_nil, List.reverse_reverse]

theorem eq_append_of_mem_last {s : List Char} (h : separator ∈ s) :
    ∃ before after, s = before ++ separator :: after ∧ separator ∉ after := by
  obtain ⟨after, before, hs, ha⟩ := List.eq_append_cons_of_mem (List.mem_reverse.mpr h)
  refine ⟨before.reverse, after.reverse, ?_, mt List.mem_reverse.mp ha⟩
  rw [← List.reverse_inj, hs]
  simp

theorem strip?_append (start s : List Char) : strip? start (start ++ s) = some s := by
  induction start with
  | nil => rfl
  | cons c start ih => rwa [List.cons_append, strip?, if_pos rfl]

theorem strip?_eq_none {start s : List Char} (hstart : separator ∉ start) (hs : separator ∉ s)
    (h : start ≠ s) (rest : List Char) :
    strip? (start ++ [separator]) (s ++ separator :: rest) = none := by
  induction start generalizing s with
  | nil =>
    obtain ⟨c, s, rfl⟩ := List.exists_cons_of_ne_nil h.symm
    rw [List.nil_append, List.cons_append, strip?, if_neg (List.ne_of_not_mem_cons hs)]
  | cons x start ih =>
    obtain ⟨hx, hstart⟩ := not_or.mp (mt List.mem_cons.mpr hstart)
    cases s with
    | nil => rw [List.cons_append, List.nil_append, strip?, if_neg (Ne.symm hx)]
    | cons c s =>
      rw [List.cons_append, List.cons_append, strip?]
      split
      · rename_i hxc
        have hne : start ≠ s := fun he => h (by rw [hxc, he])
        exact ih hstart (List.not_mem_of_not_mem_cons hs) hne
      · rfl

theorem splitAt?_append (mark after : List Char) :
    splitAt? mark (mark ++ after) = some ([], after) := by
  have hs := strip?_append mark after
  cases h : mark ++ after with
  | nil => rw [splitAt?, ← h, hs, Option.map_some]
  | cons c s =>
    rw [h] at hs
    rw [splitAt?, hs]

theorem strip?_append_of_some {start s rest : List Char} (h : strip? start s = some rest)
    (more : List Char) : strip? start (s ++ more) = some (rest ++ more) := by
  rw [eq_append_of_strip? h, List.append_assoc, strip?_append]

theorem strip?_append_of_none {start s : List Char} (h : strip? start s = none)
    (long : start.length ≤ s.length) (more : List Char) : strip? start (s ++ more) = none := by
  induction start generalizing s with
  | nil => simp [strip?] at h
  | cons x start ih =>
    cases s with
    | nil => simp at long
    | cons c s =>
      simp only [strip?] at h
      rw [List.cons_append, strip?]
      split at h
      · rw [if_pos ‹_›]
        exact ih h (Nat.le_of_succ_le_succ long)
      · rw [if_neg ‹_›]

theorem suffix_of_splitAt? {mark s before after : List Char}
    (h : splitAt? mark s = some (before, after)) : after <:+ s := by
  rw [eq_append_of_splitAt? h, ← List.append_assoc]
  exact List.suffix_append _ after

theorem splitAt?_replace {mark s before after : List Char}
    (h : splitAt? mark s = some (before, after)) (other : List Char) :
    splitAt? mark (before ++ (mark ++ other)) = some (before, other) := by
  induction s generalizing before with
  | nil =>
    obtain ⟨rfl, -⟩ := List.append_eq_nil_iff.mp (eq_append_of_splitAt? h).symm
    exact splitAt?_append mark other
  | cons c s ih =>
    rw [splitAt?] at h
    cases hs : strip? mark (c :: s) with
    | some rest =>
      rw [hs] at h
      obtain ⟨rfl, -⟩ := Prod.mk.inj (Option.some.inj h)
      exact splitAt?_append mark other
    | none =>
      rw [hs] at h
      obtain ⟨⟨first, rest⟩, ht, he⟩ := Option.map_eq_some_iff.mp h
      obtain ⟨rfl, rfl⟩ := Prod.mk.inj he
      -- The mark does not start here, as it would end before the place where it is found.
      have here : strip? mark (c :: (first ++ mark)) = none := by
        cases hm : strip? mark (c :: (first ++ mark)) with
        | none => rfl
        | some more =>
          have longer := strip?_append_of_some hm rest
          rw [List.cons_append, List.append_assoc, ← eq_append_of_splitAt? ht, hs] at longer
          contradiction
      have later := strip?_append_of_none here (by simp; omega) other
      rw [List.cons_append, List.append_assoc] at later
      rw [List.cons_append, splitAt?, later, ih ht]
      rfl

def Passes (mark front : List Char) : Prop :=
  ∀ s, splitAt? mark (front ++ s) = (splitAt? mark s).map fun p => (front ++ p.1, p.2)

namespace Passes

variable {mark front next : List Char}

theorem nil : Passes mark [] := by
  intro s
  simp

theorem append (hf : Passes mark front) (hn : Passes mark next) : Passes mark (front ++ next) := by
  intro s
  rw [List.append_assoc, hf, hn, Option.map_map]
  simp only [Function.comp_def, List.append_assoc]

theorem cons {c : Char} (h : ∀ s, strip? mark (c :: (front ++ s)) = none)
    (hf : Passes mark front) : Passes mark (c :: front) := by
  intro s
  rw [List.cons_append, splitAt?, h, hf, Option.map_map]
  rfl

theorem of_not_mem {first : Char} (h : first ∉ front) : Passes (first :: mark) front := by
  induction front with
  | nil => exact nil
  | cons c front ih =>
    obtain ⟨hc, hf⟩ := not_or.mp (mt List.mem_cons.mpr h)
    apply cons _ (ih hf)
    intro s
    rw [strip?, if_neg hc]

end Passes

theorem eq_append_of_mem {c : Char} {s : String} (mark : String) (hm : mark.toList = [c])
    (h : c ∈ s.toList) :
    ∃ before after : String, s = before ++ mark ++ after ∧ c ∉ before.toList := by
  obtain ⟨before, after, hs, hb⟩ := List.eq_append_cons_of_mem h
  refine ⟨String.ofList before, String.ofList after, ?_, by rwa [String.toList_ofList]⟩
  rw [← String.toList_inj, hs]
  simp [hm]

end CloudLookup.Text
