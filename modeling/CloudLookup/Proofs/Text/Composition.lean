import CloudLookup.Text.Composition

/-! The composed form of a text between characters of ASCII. A character of ASCII is neither taken
apart nor composed with what stands before it, and a point is composed with nothing. -/
namespace CloudLookup.Text

structure Stays (c : Char) : Prop where
  whole : pairOf? c = none
  starts : markClass c = 0
  apart : ∀ a, composePair? a c = none

section Ascii

variable {c : Char} (h : c.toNat < 128)
include h

theorem markClass_ascii : markClass c = 0 := by
  have beyond : ∀ row ∈ markClasses, 128 ≤ row.1 := by decide +kernel
  unfold markClass
  rw [List.find?_eq_none.mpr]
  · rfl
  · intro row hrow
    have := beyond row hrow
    have low : ¬ row.1 ≤ c.toNat := by omega
    simp [low]

theorem pairOf?_ascii : pairOf? c = none := by
  have beyond : ∀ row ∈ composedPairs, ∀ p ∈ row.2, 128 ≤ p.2 := by decide +kernel
  have noSyllable : syllableParts? c = none := by
    unfold syllableParts?
    rw [if_pos (.inl (by omega))]
  unfold pairOf?
  rw [noSyllable]
  apply List.findSome?_eq_none_iff.mpr
  rintro ⟨second, pairs⟩ hrow
  dsimp only
  rw [List.find?_eq_none.mpr]
  · rfl
  · rintro ⟨first, composed⟩ hp
    have : 128 ≤ composed := beyond (second, pairs) hrow (first, composed) hp
    simp only [decide_eq_true_eq]
    omega

theorem composePair?_ascii (a : Char) : composePair? a c = none := by
  have beyond : ∀ row ∈ composedPairs, 128 ≤ row.1 := by decide +kernel
  have noSyllable : syllable? a c = none := by
    unfold syllable?
    dsimp only
    rw [if_neg (by omega), if_neg (by omega)]
  have noRow : composedPairs.lookup c.toNat = none := by
    rw [List.lookup_eq_none_iff]
    intro row hrow
    have := beyond row hrow
    rw [bne_iff_ne]
    omega
  unfold composePair?
  rw [noSyllable, noRow]
  rfl

theorem stays_ascii : Stays c :=
  ⟨pairOf?_ascii h, markClass_ascii h, composePair?_ascii h⟩

end Ascii

theorem composePair?_point (c : Char) : composePair? '.' c = none := by
  have noPair : ∀ row ∈ composedPairs, row.2.lookup '.'.toNat = none := by decide +kernel
  have noSyllable : syllable? '.' c = none := by
    unfold syllable?
    dsimp only
    rw [if_neg (fun h => absurd h.1 (by decide)), if_neg (fun h => absurd h.1 (by decide))]
  unfold composePair?
  rw [noSyllable]
  cases hrow : composedPairs.lookup c.toNat with
  | none => rfl
  | some pairs =>
    obtain ⟨before, after, he, -⟩ := List.lookup_eq_some_iff.mp hrow
    have hp : pairs.lookup '.'.toNat = none := noPair (c.toNat, pairs) (by simp [he])
    change (pairs.lookup '.'.toNat).bind _ = none
    rw [hp]
    rfl

theorem takeApart_append (s t : List Char) : takeApart (s ++ t) = takeApart s ++ takeApart t :=
  List.flatMap_append

theorem decompose_append (s t : List Char) : decompose (s ++ t) = decompose s ++ decompose t := by
  unfold decompose
  rw [takeApart_append, takeApart_append, takeApart_append]

section Staying

variable {s t : List Char} {b : Char}

theorem decompose_staying (h : ∀ c ∈ s, Stays c) : decompose s = s := by
  have once : takeApart s = s := by
    unfold takeApart
    induction s with
    | nil => rfl
    | cons c s ih =>
      obtain ⟨hc, hs⟩ := List.forall_mem_cons.mp h
      rw [List.flatMap_cons, hc.whole, ih hs]
      rfl
  rw [decompose, once, once, once]

theorem insertMark_start {c : Char} (h : markClass c = 0) (s : List Char) :
    insertMark c s = c :: s := by
  cases s with
  | nil => rfl
  | cons d s => rw [insertMark, if_neg (by omega)]

theorem insertMark_append (hb : markClass b = 0) (c : Char) (s t : List Char) :
    insertMark c (s ++ b :: t) = insertMark c s ++ b :: t := by
  induction s with
  | nil =>
    have stop : insertMark c (b :: t) = c :: b :: t := by rw [insertMark, if_neg (by omega)]
    exact stop
  | cons d s ih =>
    rw [List.cons_append, insertMark, insertMark, ih]
    split <;> rfl

theorem orderMarks_append (hb : markClass b = 0) (s t : List Char) :
    orderMarks (s ++ b :: t) = orderMarks s ++ b :: orderMarks t := by
  unfold orderMarks
  induction s with
  | nil => rw [List.nil_append, List.foldr_cons, insertMark_start hb]; rfl
  | cons c s ih => rw [List.cons_append, List.foldr_cons, ih, insertMark_append hb]; rfl

theorem orderMarks_staying (h : ∀ c ∈ s, Stays c) : orderMarks s = s := by
  unfold orderMarks
  induction s with
  | nil => rfl
  | cons c s ih =>
    obtain ⟨hc, hs⟩ := List.forall_mem_cons.mp h
    rw [List.foldr_cons, ih hs, insertMark_start hc.starts]

theorem composeAfter_append (hb : Stays b) (base : Char) (held s t : List Char) :
    composeAfter base held (s ++ b :: t) = composeAfter base held s ++ composeAfter b [] t := by
  induction s generalizing base held with
  | nil =>
    have start : composeAfter base held (b :: t) =
        base :: held.reverse ++ composeAfter b [] t := by
      rw [composeAfter, hb.apart, ite_self]
      exact if_pos hb.starts
    exact start
  | cons c s ih =>
    rw [List.cons_append, composeAfter, composeAfter]
    split
    · exact ih _ _
    · split
      · rw [ih, List.append_assoc]
      · exact ih _ _

theorem composeAfter_staying (h : ∀ c ∈ s, Stays c) (base : Char) :
    composeAfter base [] s = base :: s := by
  induction s generalizing base with
  | nil => rfl
  | cons c s ih =>
    obtain ⟨hc, hs⟩ := List.forall_mem_cons.mp h
    have across := composeAfter_append hc base [] [] s
    rw [List.nil_append, ih hs] at across
    exact across

theorem composeAfter_point (held s : List Char) :
    ∃ rest, composeAfter '.' held s = '.' :: rest := by
  induction s generalizing held with
  | nil => exact ⟨_, rfl⟩
  | cons c s ih =>
    rw [composeAfter, composePair?_point, ite_self]
    dsimp only
    split
    · exact ⟨_, rfl⟩
    · exact ih _

end Staying

theorem compose_between {front back : List Char} (hf : ∀ c ∈ front, Stays c)
    (hb : ∀ c ∈ back, Stays c) (s : List Char) :
    ∃ t, compose (front ++ '.' :: (s ++ '.' :: back)) = front ++ '.' :: (t ++ '.' :: back) := by
  have point : Stays '.' := stays_ascii (by decide)
  have decomposed : decompose (front ++ '.' :: (s ++ '.' :: back)) =
      front ++ '.' :: (decompose s ++ '.' :: back) := by
    have cut (t : List Char) : decompose ('.' :: t) = '.' :: decompose t := by
      have dot : decompose ['.'] = ['.'] := decompose_staying (by simpa using point)
      rw [← List.singleton_append, decompose_append, dot, List.singleton_append]
    rw [decompose_append, cut, decompose_append, cut, decompose_staying hf, decompose_staying hb]
  have ordered : orderMarks (decompose (front ++ '.' :: (s ++ '.' :: back))) =
      front ++ '.' :: (orderMarks (decompose s) ++ '.' :: back) := by
    rw [decomposed, orderMarks_append point.starts, orderMarks_append point.starts,
      orderMarks_staying hf, orderMarks_staying hb]
  obtain ⟨rest, hrest⟩ := composeAfter_point [] (orderMarks (decompose s))
  have composed : composeAfter '.' [] (orderMarks (decompose s) ++ '.' :: back) =
      '.' :: (rest ++ '.' :: back) := by
    rw [composeAfter_append point, composeAfter_staying hb, hrest]
    rfl
  refine ⟨rest, ?_⟩
  unfold compose
  rw [ordered]
  cases front with
  | nil => exact composed
  | cons c front =>
    obtain ⟨-, hfront⟩ := List.forall_mem_cons.mp hf
    rw [List.cons_append]
    dsimp only
    rw [composeAfter_append point, composeAfter_staying hfront, composed]

end CloudLookup.Text
