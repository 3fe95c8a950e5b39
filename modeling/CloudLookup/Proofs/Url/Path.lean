import CloudLookup.Proofs.Text.Cutting
import CloudLookup.Url.Parser
import Mathlib.Data.List.TakeWhile

/-! What an address on the web has after its authority. Where a long segment stands before the last
slash, that is more than the root. -/
namespace CloudLookup.Url

open Text (fields)

section Segments

variable {kind : Kind} {segment : List Char}

theorem length_of_spelling {spellings : List String} {most : Nat}
    (bound : ∀ s ∈ spellings, s.toList.length ≤ most)
    (h : spellings.contains (String.ofList (segment.map Char.toLower))) :
    segment.length ≤ most := by
  have length := bound _ (List.contains_iff_mem.mp h)
  rwa [String.toList_ofList, List.length_map] at length

theorem addSegment_long (h : 6 < segment.length) (parts : List (List Char)) (isLast : Bool) :
    addSegment .web parts segment isLast = parts ++ [segment] := by
  have double : ¬ isDoubleDot segment := by
    intro dots
    have short : segment.length ≤ 6 := length_of_spelling (by decide) dots
    omega
  have single : ¬ isSingleDot segment := by
    intro dot
    have short : segment.length ≤ 6 := length_of_spelling (by decide) dot
    omega
  unfold addSegment
  rw [if_neg double, if_neg single]

theorem ofSegments_append (kind : Kind) (parts front back : List (List Char)) :
    ∃ moved, ofSegments kind parts (front ++ back) = ofSegments kind moved back := by
  induction front generalizing parts with
  | nil => exact ⟨parts, rfl⟩
  | cons segment front ih => exact ih _

theorem fields_append_plain {separator : Char} {v : List Char} (hv : separator ∉ v)
    (u : List Char) : ∃ parts part, fields separator (u ++ v) = parts ++ [part ++ v] := by
  by_cases hu : separator ∈ u
  · obtain ⟨before, after, rfl, ha⟩ := Text.eq_append_of_mem_last hu
    have plain : separator ∉ after ++ v := fun h => (List.mem_append.mp h).elim ha hv
    refine ⟨fields separator before, after, ?_⟩
    rw [List.append_assoc, List.cons_append, Text.fields_append_fields,
      Text.fields_of_not_mem plain]
  · have plain : separator ∉ u ++ v := fun h => (List.mem_append.mp h).elim hu hv
    exact ⟨[], u, Text.fields_of_not_mem plain⟩

theorem percentEncode_plain {encoded : Char → Bool} {s : List Char}
    (h : ∀ c ∈ s, encoded c = false) : percentEncode encoded s = s := by
  induction s with
  | nil => rfl
  | cons c s ih =>
    obtain ⟨hc, hs⟩ := List.forall_mem_cons.mp h
    unfold percentEncode at ih ⊢
    rw [List.flatMap_cons, hc, ih hs]
    rfl

end Segments

/-- A text that is one segment in paths, neither encoded nor short enough to stand for dots. -/
structure IsLong (v : List Char) : Prop where
  long : 6 < v.length
  plain : v.any inUserinfoSet = false

theorem IsLong.of_mem {v : List Char} (h : IsLong v) {c : Char} (hc : c ∈ v) :
    inPathSet c = false ∧ c ≠ '/' ∧ c ≠ '\\' := by
  have plain := List.any_eq_false.mp h.plain c hc
  refine ⟨?_, ?_, ?_⟩
  · rw [Bool.eq_false_iff]
    intro encoded
    exact plain (by simp [inUserinfoSet, encoded])
  · rintro rfl
    exact plain rfl
  · rintro rfl
    exact plain rfl

theorem readSegments_long {v : List Char} (h : IsLong v) (s : List Char) :
    ∃ parts segment, readSegments .web (s ++ (v ++ ['/'])) = parts ++ [segment, []] := by
  have shown : v.map (fun c => if c = '\\' then '/' else c) = v := by
    have same : v.map (fun c => if c = '\\' then '/' else c) = v.map id :=
      List.map_congr_left fun c hc => if_neg (h.of_mem hc).2.2
    rwa [List.map_id] at same
  have noSlash : '/' ∉ v := fun hs => (h.of_mem hs).2.1 rfl
  obtain ⟨front, part, hp⟩ :=
    fields_append_plain noSlash (s.map fun c => if c = '\\' then '/' else c)
  have cut : splitPath .web (s ++ (v ++ ['/'])) = front ++ [part ++ v, []] := by
    unfold splitPath
    simp only [Kind.isSpecial, if_true, List.map_append, shown]
    have last : fields '/' ((s.map fun c => if c = '\\' then '/' else c) ++ v ++ ['/']) =
        front ++ [part ++ v] ++ [[]] := by
      rw [Text.fields_append_fields, hp]
      rfl
    rw [List.append_assoc, List.append_assoc] at last
    exact last
  have encoded : percentEncode inPathSet (part ++ v) = percentEncode inPathSet part ++ v := by
    have plain := percentEncode_plain fun c hc => (h.of_mem hc).1
    unfold percentEncode at plain ⊢
    rw [List.flatMap_append, plain]
  obtain ⟨moved, hm⟩ := ofSegments_append .web [] front [part ++ v, []]
  refine ⟨moved, percentEncode inPathSet (part ++ v), ?_⟩
  have long : 6 < (percentEncode inPathSet (part ++ v)).length := by
    rw [encoded, List.length_append]
    have := h.long
    omega
  rw [readSegments, cut, hm, ofSegments, addSegment_long long, ofSegments, ofSegments]
  change (moved ++ [_]) ++ [[]] = _
  rw [List.append_assoc]
  rfl

section End

variable {kind : Kind} {s : List Char}

theorem not_endsPath_of_readEnd
    (h : readEnd kind (s.dropWhile fun c => !endsPath c) = (none, none)) :
    ∀ c ∈ s, endsPath c = false := by
  induction s with
  | nil => simp
  | cons c s ih =>
    by_cases hc : endsPath c
    · rw [List.dropWhile_cons_of_neg (by simp [hc])] at h
      unfold endsPath at hc
      rw [Bool.or_eq_true, decide_eq_true_eq, decide_eq_true_eq] at hc
      obtain rfl | rfl := hc
      · exact absurd (Prod.mk.inj h).1 (by simp)
      · exact absurd (Prod.mk.inj h).2 (by simp)
    · have hc := Bool.eq_false_iff.mpr hc
      rw [List.dropWhile_cons_of_pos (by simp [hc])] at h
      exact List.forall_mem_cons.mpr ⟨hc, ih h⟩

end End

structure AtRoot (u : Url) : Prop where
  path : u.path = .segments [[]]
  query : u.query = none
  fragment : u.fragment = none

theorem atRoot_slash {scheme : List Char} (web : kindOf scheme = .web) (authority : Authority) :
    AtRoot (withAuthority scheme authority ['/']) := by
  unfold withAuthority
  rw [web]
  exact ⟨rfl, rfl, rfl⟩

theorem not_atRoot_long {scheme v : List Char} {e : Char} (web : kindOf scheme = .web)
    (he : endsAuthority .web e) (hv : IsLong v) (authority : Authority) (s : List Char) :
    ¬ AtRoot (withAuthority scheme authority (e :: (s ++ (v ++ ['/'])))) := by
  rintro ⟨path, query, fragment⟩
  unfold withAuthority at path query fragment
  rw [web] at path query fragment
  have noEnd := not_endsPath_of_readEnd (Prod.ext query fragment)
  have whole : (e :: (s ++ (v ++ ['/']))).takeWhile (fun c => !endsPath c) =
      e :: (s ++ (v ++ ['/'])) :=
    List.takeWhile_eq_self_iff.mpr fun c hc => by rw [noEnd c hc]; rfl
  have slash : (e = '/' || (Kind.web.isSpecial && e = '\\')) = true := by
    have inPath := noEnd e List.mem_cons_self
    simp only [endsAuthority, endsPath, Kind.isSpecial] at he inPath ⊢
    grind
  obtain ⟨parts, segment, hs⟩ := readSegments_long hv s
  have read := Path.segments.inj path
  rw [whole, readPath, if_pos slash, hs] at read
  have length := congrArg List.length read
  simp at length

end CloudLookup.Url
