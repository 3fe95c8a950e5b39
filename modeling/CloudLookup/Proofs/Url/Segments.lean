import CloudLookup.Proofs.Url.Percent
import CloudLookup.Url.Segments

/-! Segments added to the path of an address on the web. Each one that is not made of one or two
dots becomes a segment of its own, from which it is read back; dots add nothing. -/
namespace CloudLookup.Url

section Dots

theorem eq_of_toLower {a c : Char} (h : a.toLower = c) (hc : c.toNat < 'a'.toNat) : a = c := by
  unfold Char.toLower at h
  split at h
  · rename_i upper
    subst h
    simp only [ge_iff_le, UInt32.le_iff_toNat_le] at upper
    simp [← Char.toNat_val] at hc upper
    omega
  · exact h

theorem hexValue?_of_toLower {a : Char} (h : a.toLower = 'e') : hexValue? a = some 14 := by
  unfold Char.toLower at h
  split at h
  · rename_i upper
    have ha : a = 'E' := by
      rw [← Char.toNat_inj] at h ⊢
      simp only [ge_iff_le, UInt32.le_iff_toNat_le] at upper
      simp [← Char.toNat_val] at h upper ⊢
      omega
    rw [ha]
    rfl
  · rw [h]
    rfl

def IsDot (spelling : List Char) : Prop :=
  spelling.map Char.toLower = ['.'] ∨ spelling.map Char.toLower = ['%', '2', 'e']

theorem percentDecode_dot {spelling : List Char} (h : IsDot spelling) (rest : List Char) :
    percentDecode (spelling ++ rest) = 0x2E :: percentDecode rest := by
  obtain h | h := h
  · obtain ⟨a, rfl, ha⟩ := List.map_eq_singleton_iff.mp h
    obtain rfl := eq_of_toLower ha (by decide)
    rw [List.singleton_append, percentDecode_cons (by decide)]
    rfl
  · obtain ⟨a, _, rfl, ha, h⟩ := List.map_eq_cons_iff.mp h
    obtain ⟨b, _, rfl, hb, h⟩ := List.map_eq_cons_iff.mp h
    obtain ⟨e, rfl, he⟩ := List.map_eq_singleton_iff.mp h
    obtain rfl := eq_of_toLower ha (by decide)
    obtain rfl := eq_of_toLower hb (by decide)
    simp only [List.cons_append, List.nil_append, percentDecode, hexValue?_of_toLower he]
    rfl

theorem percentDecode_of_isSingleDot {segment : List Char} (h : isSingleDot segment) :
    percentDecode segment = Text.utf8 ['.'] := by
  unfold isSingleDot at h
  have dot : IsDot segment := by
    simpa [IsDot, ← String.toList_inj] using h
  rw [← List.append_nil segment, percentDecode_dot dot]
  rfl

theorem percentDecode_of_isDoubleDot {segment : List Char} (h : isDoubleDot segment) :
    percentDecode segment = Text.utf8 ['.', '.'] := by
  unfold isDoubleDot at h
  have dots : ∃ first second, segment = first ++ second ∧ IsDot first ∧ IsDot second := by
    have spelled : ∃ x y, segment.map Char.toLower = x ++ y ∧ (x = ['.'] ∨ x = ['%', '2', 'e']) ∧
        (y = ['.'] ∨ y = ['%', '2', 'e']) := by
      simp only [List.contains_iff_mem, List.mem_cons, List.not_mem_nil, or_false,
        ← String.toList_inj, String.toList_ofList] at h
      obtain h | h | h | h := h
      · exact ⟨['.'], ['.'], h, .inl rfl, .inl rfl⟩
      · exact ⟨['.'], ['%', '2', 'e'], h, .inl rfl, .inr rfl⟩
      · exact ⟨['%', '2', 'e'], ['.'], h, .inr rfl, .inl rfl⟩
      · exact ⟨['%', '2', 'e'], ['%', '2', 'e'], h, .inr rfl, .inr rfl⟩
    obtain ⟨x, y, hm, hx, hy⟩ := spelled
    obtain ⟨first, second, rfl, rfl, rfl⟩ := List.map_eq_append_iff.mp hm
    exact ⟨first, second, rfl, hx, hy⟩
  obtain ⟨first, second, rfl, hf, hs⟩ := dots
  rw [percentDecode_dot hf, ← List.append_nil second, percentDecode_dot hs]
  rfl

end Dots

/-- A segment that is neither one dot nor two, and has no tab or line end. -/
structure IsOrdinary (segment : List Char) : Prop where
  plain : ∀ c ∈ segment, c ≠ '\t' ∧ c ≠ '\n' ∧ c ≠ '\r'
  dot : segment ≠ ['.']
  dots : segment ≠ ['.', '.']

theorem percent_mem_inSpecialSegmentSet : inSpecialSegmentSet '%' := rfl

theorem appendSegment_web {segment : List Char} (h : IsOrdinary segment)
    (parts : List (List Char)) :
    appendSegment .web parts segment = parts ++ [percentEncode inSpecialSegmentSet segment] := by
  have shown : segment.filter (fun c => !(c = '\t' || c = '\n' || c = '\r')) = segment := by
    rw [List.filter_eq_self]
    intro c hc
    obtain ⟨ht, hn, hr⟩ := h.plain c hc
    simp [ht, hn, hr]
  -- A dot in any spelling is decoded as one, and what is decoded here is the segment itself.
  have decoded := percentDecode_percentEncode percent_mem_inSpecialSegmentSet segment
  have single : ¬ isSingleDot (percentEncode inSpecialSegmentSet segment) := by
    intro hd
    rw [percentDecode_of_isSingleDot hd, Text.utf8_inj] at decoded
    exact h.dot decoded.symm
  have double : ¬ isDoubleDot (percentEncode inSpecialSegmentSet segment) := by
    intro hd
    rw [percentDecode_of_isDoubleDot hd, Text.utf8_inj] at decoded
    exact h.dots decoded.symm
  unfold appendSegment
  rw [if_neg (not_or.mpr ⟨h.dot, h.dots⟩)]
  dsimp only
  rw [shown]
  change addSegment .web parts (percentEncode inSpecialSegmentSet segment) true = _
  unfold addSegment
  rw [if_neg double, if_neg single]

theorem appendSegment_dots {segment : List Char} (h : segment = ['.'] ∨ segment = ['.', '.'])
    (kind : Kind) (parts : List (List Char)) : appendSegment kind parts segment = parts := by
  unfold appendSegment
  rw [if_pos h]

theorem foldl_appendSegment_web {segments : List (List Char)}
    (h : ∀ segment ∈ segments, IsOrdinary segment) (parts : List (List Char)) :
    segments.foldl (appendSegment .web) parts =
      parts ++ segments.map (percentEncode inSpecialSegmentSet) := by
  induction segments generalizing parts with
  | nil => simp
  | cons segment segments ih =>
    obtain ⟨hs, h⟩ := List.forall_mem_cons.mp h
    rw [List.foldl_cons, appendSegment_web hs, ih h, List.map_cons, List.append_assoc,
      List.singleton_append]

/-- What is left of a path before segments are added: all of it, or all but an empty last segment.
Of two empty segments nothing is left. -/
inductive Base : List (List Char) → List (List Char) → Prop where
  | full {parts : List (List Char)} (h : parts.getLast? ≠ some []) : Base parts parts
  | ended {front : List (List Char)} (h : front ≠ [[]]) : Base (front ++ [[]]) front
  | root : Base [[], []] []

theorem base_dropEmptyEnd (parts : List (List Char)) : Base parts (dropEmptyEnd parts) := by
  by_cases hl : parts.getLast? = some []
  · obtain ⟨front, rfl⟩ := List.getLast?_eq_some_iff.mp hl
    unfold dropEmptyEnd
    rw [hl]
    cases front with
    | nil => exact .ended (by simp)
    | cons first others =>
      have cut : 1 < (first :: others ++ [[]]).length ∧ some ([] : List Char) = some [] :=
        ⟨by simp, rfl⟩
      dsimp only
      rw [if_pos cut, List.dropLast_concat]
      split
      · rename_i root
        rw [root]
        exact .root
      · exact .ended ‹_›
  · unfold dropEmptyEnd
    simp only [hl, and_false, if_false]
    rw [if_neg]
    · exact .full hl
    · rintro rfl
      exact hl rfl

end CloudLookup.Url
