import CloudLookup.Text.Blank

/-! Trimming takes white space from both ends of a text and nothing else. -/
namespace CloudLookup.Text

structure IsTrimmed (s t : String) : Prop where
  cut : ∃ before after : List Char, s.toList = before ++ t.toList ++ after ∧
    before.all isBlank ∧ after.all isBlank
  head : ∀ c ∈ t.toList.head?, isBlank c = false
  last : ∀ c ∈ t.toList.getLast?, isBlank c = false

private theorem dropWhile_head (drop : Char → Bool) (s : List Char) :
    ∀ c ∈ (s.dropWhile drop).head?, drop c = false := by
  intro c hc
  have h := List.head?_dropWhile_not drop s
  rw [Option.mem_def.mp hc] at h
  simpa using h

theorem trimOf_spec (drop : Char → Bool) (s : List Char) :
    ∃ before after, s = before ++ trimOf drop s ++ after ∧ before.all drop ∧ after.all drop := by
  have hs := List.takeWhile_append_dropWhile (p := drop) (l := s)
  have hr := List.takeWhile_append_dropWhile (p := drop) (l := (s.dropWhile drop).reverse)
  refine ⟨s.takeWhile drop, (((s.dropWhile drop).reverse).takeWhile drop).reverse, ?_,
    List.all_takeWhile, by rw [List.all_reverse]; exact List.all_takeWhile⟩
  unfold trimOf
  rw [List.append_assoc, ← List.reverse_append, hr, List.reverse_reverse, hs]

theorem trimOf_last (drop : Char → Bool) (s : List Char) :
    ∀ c ∈ (trimOf drop s).getLast?, drop c = false := by
  unfold trimOf
  rw [List.getLast?_reverse]
  exact dropWhile_head drop _

theorem trimOf_head (drop : Char → Bool) (s : List Char) :
    ∀ c ∈ (trimOf drop s).head?, drop c = false := by
  intro c hc
  obtain ⟨t, ht⟩ : ∃ t, trimOf drop s = c :: t := List.head?_eq_some_iff.mp hc
  -- What is left after the second cut starts like what was left after the first.
  have hr : trimOf drop s ++ (((s.dropWhile drop).reverse).takeWhile drop).reverse =
      s.dropWhile drop := by
    unfold trimOf
    rw [← List.reverse_append, List.takeWhile_append_dropWhile, List.reverse_reverse]
  apply dropWhile_head drop s c
  rw [← hr, ht]
  rfl

structure Solid (drop : Char → Bool) (s : List Char) : Prop where
  head : ∀ c ∈ s.head?, drop c = false
  last : ∀ c ∈ s.getLast?, drop c = false

namespace Solid

variable {drop : Char → Bool} {s t : List Char}

theorem append (hs : Solid drop s) (ht : Solid drop t) : Solid drop (s ++ t) := by
  constructor
  · intro c hc
    rw [List.head?_append, Option.mem_def, Option.or_eq_some_iff] at hc
    obtain hc | ⟨-, hc⟩ := hc
    · exact hs.head c hc
    · exact ht.head c hc
  · intro c hc
    rw [List.getLast?_append, Option.mem_def, Option.or_eq_some_iff] at hc
    obtain hc | ⟨-, hc⟩ := hc
    · exact ht.last c hc
    · exact hs.last c hc

theorem nil : Solid drop [] := ⟨by simp, by simp⟩

theorem of_cons_append {c d : Char} (hc : drop c = false) (hd : drop d = false) :
    Solid drop (c :: s ++ [d]) := by
  constructor
  · intro c' hc'
    obtain rfl := Option.some.inj hc'
    exact hc
  · intro c' hc'
    rw [List.getLast?_append] at hc'
    obtain rfl := Option.some.inj hc'
    exact hd

theorem dropWhile_append {c : Char} (h : Solid drop s) (hc : drop c = false) (rest : List Char) :
    (s ++ c :: rest).dropWhile drop = s ++ c :: rest := by
  cases s with
  | nil => exact List.dropWhile_cons_of_neg (by simp [hc])
  | cons d s => exact List.dropWhile_cons_of_neg (by simp [h.head d rfl])

theorem dropWhile_eq (h : Solid drop s) : s.dropWhile drop = s := by
  cases s with
  | nil => rfl
  | cons c s => exact List.dropWhile_cons_of_neg (by simp [h.head c rfl])

theorem takeWhile_eq (h : Solid drop s) : s.takeWhile drop = [] := by
  cases s with
  | nil => rfl
  | cons c s => exact List.takeWhile_cons_of_neg (by simp [h.head c rfl])

theorem reverse (h : Solid drop s) : Solid drop s.reverse :=
  ⟨by rw [List.head?_reverse]; exact h.last, by rw [List.getLast?_reverse]; exact h.head⟩

theorem trimOf_eq (h : Solid drop s) : trimOf drop s = s := by
  rw [trimOf, h.dropWhile_eq, h.reverse.dropWhile_eq, List.reverse_reverse]

theorem mono {fewer : Char → Bool} (h : Solid drop s) (hf : ∀ c, fewer c → drop c) :
    Solid fewer s := by
  have kept {c : Char} (hc : drop c = false) : fewer c = false :=
    Bool.eq_false_iff.mpr fun hfc => Bool.eq_false_iff.mp hc (hf c hfc)
  exact ⟨fun c hc => kept (h.head c hc), fun c hc => kept (h.last c hc)⟩

end Solid

theorem solid_trimOf (drop : Char → Bool) (s : List Char) : Solid drop (trimOf drop s) :=
  ⟨trimOf_head drop s, trimOf_last drop s⟩

theorem solid_of_trim {s : String} (h : trim s = s) : Solid isBlank s.toList := by
  rw [← h, trim, String.toList_ofList]
  exact solid_trimOf isBlank s.toList

theorem isTrimmed_trim (s : String) : IsTrimmed s (trim s) := by
  refine ⟨?_, ?_, ?_⟩
  all_goals simp only [trim, String.toList_ofList]
  · exact trimOf_spec isBlank s.toList
  · exact trimOf_head isBlank s.toList
  · exact trimOf_last isBlank s.toList

theorem IsTrimmed.eq_empty {s t : String} (h : IsTrimmed s t) (blank : ∀ c ∈ s.toList, isBlank c) :
    t = "" := by
  rw [← String.toList_eq_nil_iff]
  obtain ⟨before, after, hs, -, -⟩ := h.cut
  cases ht : t.toList with
  | nil => rfl
  | cons c rest =>
    have visible : isBlank c = false := h.head c (by rw [ht]; rfl)
    have hc : isBlank c := blank c (by rw [hs, ht]; simp)
    simp [visible] at hc

end CloudLookup.Text
