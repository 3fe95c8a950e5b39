import CloudLookup.Proofs.Text.Composition
import CloudLookup.Proofs.Text.Cutting
import CloudLookup.Url.Domain

/-! Names of domains whose first part and last parts are plain: those parts come out as they are,
whatever stands between them. -/
namespace CloudLookup.Url.Domain

open Text (fields join)

def isPlain (c : Char) : Bool := c.isLower || c.isDigit || c = '.'

section Plain

variable {c : Char}

theorem isPlain_iff : isPlain c ↔
    'a'.toNat ≤ c.toNat ∧ c.toNat ≤ 'z'.toNat ∨ '0'.toNat ≤ c.toNat ∧ c.toNat ≤ '9'.toNat ∨
      c = '.' := by
  unfold isPlain Char.isLower Char.isDigit
  simp only [Bool.or_eq_true, Bool.and_eq_true, decide_eq_true_eq, ge_iff_le,
    UInt32.le_iff_toNat_le, ← Char.toNat_val, or_assoc]

theorem plain_bounds (h : isPlain c) :
    c.toNat < 128 ∧ (c.toNat < 'A'.toNat ∨ 'Z'.toNat < c.toNat) := by
  have a : 'a'.toNat = 97 := rfl
  have z : 'z'.toNat = 122 := rfl
  have nine : '9'.toNat = 57 := rfl
  have upper : 'A'.toNat = 65 ∧ 'Z'.toNat = 90 := ⟨rfl, rfl⟩
  obtain h | h | rfl := isPlain_iff.mp h
  · omega
  · omega
  · decide

theorem inRanges_beyond {ranges : List (Nat × Nat)} (h : ∀ r ∈ ranges, 128 ≤ r.1)
    (hc : c.toNat < 128) : Text.inRanges ranges c = false := by
  unfold Text.inRanges
  rw [List.any_eq_false]
  rintro ⟨first, last⟩ hr
  have : 128 ≤ first := h (first, last) hr
  simp only [Bool.and_eq_true, decide_eq_true_eq]
  omega

theorem successive?_beyond {rows : List (Nat × List α)} (h : ∀ row ∈ rows, 128 ≤ row.1)
    (hc : c.toNat < 128) : successive? rows c = none := by
  unfold successive?
  rw [List.findSome?_eq_none_iff]
  rintro ⟨first, images⟩ hr
  have : 128 ≤ first := h (first, images) hr
  exact if_pos (by omega)

theorem replacement?_plain (h : isPlain c) : replacement? c = none := by
  obtain ⟨ascii, small⟩ := plain_bounds h
  have runs : ∀ row ∈ replacedRuns,
      row.1 = 'A'.toNat ∧ row.2.1 = 'Z'.toNat ∨ 128 ≤ row.1 := by decide +kernel
  have letters : ∀ row ∈ replacedLetters, 128 ≤ row.1 := by decide +kernel
  have ideographs : ∀ row ∈ replacedIdeographs, 128 ≤ row.1 := by decide +kernel
  have texts : ∀ row ∈ replacedTexts, 128 ≤ row.1 := by decide +kernel
  unfold replacement?
  rw [List.find?_eq_none.mpr, successive?_beyond letters ascii, successive?_beyond ideographs ascii,
    successive?_beyond texts ascii]
  · rfl
  · rintro ⟨first, last, step, image⟩ hr
    have bounds : first = 'A'.toNat ∧ last = 'Z'.toNat ∨ 128 ≤ first := runs _ hr
    simp only [Bool.and_eq_true, decide_eq_true_eq]
    omega

theorem uniform?_plain (h : isPlain c) : uniform? c = some [c] := by
  obtain ⟨ascii, -⟩ := plain_bounds h
  have refused : ∀ r ∈ refusedRanges, 128 ≤ r.1 := by decide +kernel
  have ignored : ∀ r ∈ ignoredRanges, 128 ≤ r.1 := by decide +kernel
  unfold uniform? isRefused isIgnored
  rw [inRanges_beyond refused ascii, inRanges_beyond ignored ascii, replacement?_plain h]
  rfl

theorem toLower_plain (h : isPlain c) : c.toLower = c := by
  obtain ⟨-, small⟩ := plain_bounds h
  have a : 'A'.val.toNat = 'A'.toNat := rfl
  have z : 'Z'.val.toNat = 'Z'.toNat := rfl
  unfold Char.toLower
  rw [dif_neg]
  simp only [ge_iff_le, UInt32.le_iff_toNat_le, Char.toNat_val, a, z]
  omega

end Plain

section Labels

theorem readLabel?_uncoded {label : List Char} (h : ¬ isCoded label) :
    readLabel? label = some label := by
  unfold isCoded at h
  rw [Option.not_isSome_iff_eq_none] at h
  unfold readLabel?
  rw [h]

theorem writeLabel?_ascii {label : List Char} (h : label.all isAscii) :
    writeLabel? label = some label := if_pos h

theorem mapM_fixed {f : List Char → Option (List Char)} {labels : List (List Char)}
    (h : ∀ label ∈ labels, f label = some label) : labels.mapM f = some labels := by
  induction labels with
  | nil => rfl
  | cons label labels ih =>
    obtain ⟨hl, hls⟩ := List.forall_mem_cons.mp h
    rw [List.mapM_cons, hl, ih hls]
    rfl

theorem eq_some_of_mapM_append {f : List Char → Option (List Char)}
    {front back : List (List Char)} (hf : ∀ label ∈ front, f label = some label)
    (hb : ∀ label ∈ back, f label = some label) {labels all : List (List Char)}
    (h : (front ++ (labels ++ back)).mapM f = some all) :
    ∃ images, labels.mapM f = some images ∧ all = front ++ (images ++ back) := by
  rw [List.mapM_append, List.mapM_append, mapM_fixed hf, mapM_fixed hb] at h
  cases hl : labels.mapM f with
  | none => rw [hl] at h; contradiction
  | some images =>
    rw [hl] at h
    exact ⟨images, rfl, (Option.some.inj h).symm⟩

theorem ne_nil_of_mapM {f : List Char → Option (List Char)} {labels images : List (List Char)}
    (h : labels.mapM f = some images) (hl : labels ≠ []) : images ≠ [] := by
  obtain ⟨label, labels, rfl⟩ := List.exists_cons_of_ne_nil hl
  rw [List.mapM_cons] at h
  obtain ⟨first, -, h⟩ := Option.bind_eq_some_iff.mp h
  obtain ⟨others, -, h⟩ := Option.bind_eq_some_iff.mp h
  obtain rfl := Option.some.inj h
  exact List.cons_ne_nil _ _

theorem eq_join_of_codeName? {name coded : List Char} (h : codeName? name = some coded) :
    ∃ labels written, (fields '.' name).mapM readLabel? = some labels ∧
      labels.mapM writeLabel? = some written ∧ coded = join ['.'] written := by
  unfold codeName? at h
  obtain ⟨labels, hl, h⟩ := Option.bind_eq_some_iff.mp h
  dsimp only at h
  split at h
  · contradiction
  · split at h
    · contradiction
    · obtain ⟨written, hw, h⟩ := Option.bind_eq_some_iff.mp h
      exact ⟨labels, written, hl, hw, (Option.some.inj h).symm⟩

end Labels

structure IsPlainName (name : List Char) : Prop where
  plain : ∀ c ∈ name, isPlain c
  uncoded : ∀ label ∈ fields '.' name, ¬ isCoded label

namespace IsPlainName

variable {name : List Char} (h : IsPlainName name)
include h

theorem stays : ∀ c ∈ name, Text.Stays c :=
  fun c hc => Text.stays_ascii (plain_bounds (h.plain c hc)).1

theorem not_mem {c : Char} (hc : isPlain c = false) : c ∉ name := by
  intro hn
  rw [h.plain c hn] at hc
  contradiction

theorem mapM_uniform? : name.mapM uniform? = some (name.map fun c => [c]) := by
  have plain := h.plain
  clear h
  induction name with
  | nil => rfl
  | cons c name ih =>
    obtain ⟨hc, hname⟩ := List.forall_mem_cons.mp plain
    rw [List.mapM_cons, uniform?_plain hc, ih hname]
    rfl

theorem read : ∀ label ∈ fields '.' name, readLabel? label = some label :=
  fun label hl => readLabel?_uncoded (h.uncoded label hl)

theorem wrote : ∀ label ∈ fields '.' name, writeLabel? label = some label := by
  intro label hl
  apply writeLabel?_ascii
  rw [List.all_eq_true]
  intro c hc
  exact decide_eq_true (plain_bounds (h.plain c (Text.mem_of_mem_fields hl hc))).1

theorem map_toLower : name.map Char.toLower = name := by
  have same : name.map Char.toLower = name.map id :=
    List.map_congr_left fun c hc => toLower_plain (h.plain c hc)
  rwa [List.map_id] at same

end IsPlainName

theorem normalize?_between {front back s normal : List Char} (hf : IsPlainName front)
    (hb : IsPlainName back) (h : normalize? (front ++ '.' :: (s ++ '.' :: back)) = some normal) :
    ∃ t, normal = front ++ '.' :: (t ++ '.' :: back) := by
  obtain ⟨parts, hp, rfl⟩ := Option.map_eq_some_iff.mp h
  have point : uniform? '.' = some ['.'] := uniform?_plain rfl
  rw [List.mapM_append, List.mapM_cons, List.mapM_append, List.mapM_cons, hf.mapM_uniform?,
    hb.mapM_uniform?, point] at hp
  cases hs : s.mapM uniform? with
  | none => rw [hs] at hp; contradiction
  | some middle =>
    rw [hs] at hp
    obtain rfl := Option.some.inj hp
    have single (l : List Char) : (l.map fun c => [c]).flatten = l := by
      rw [← List.flatMap_def]
      exact List.flatMap_singleton' l
    obtain ⟨t, ht⟩ := Text.compose_between hf.stays hb.stays middle.flatten
    refine ⟨t, ?_⟩
    rw [← ht]
    simp [single]

section Between

variable {front back s name : List Char}

theorem codeName?_between (hf : IsPlainName front) (hb : IsPlainName back)
    (h : codeName? (front ++ '.' :: (s ++ '.' :: back)) = some name) :
    ∃ t, name = front ++ '.' :: (t ++ '.' :: back) := by
  obtain ⟨labels, written, read, wrote, rfl⟩ := eq_join_of_codeName? h
  rw [Text.fields_append_fields, Text.fields_append_fields] at read
  obtain ⟨middle, readMiddle, rfl⟩ := eq_some_of_mapM_append hf.read hb.read read
  obtain ⟨codes, wroteMiddle, rfl⟩ := eq_some_of_mapM_append hf.wrote hb.wrote wrote
  have some : codes ≠ [] :=
    ne_nil_of_mapM wroteMiddle (ne_nil_of_mapM readMiddle (Text.fields_ne_nil s))
  refine ⟨join ['.'] codes, ?_⟩
  rw [Text.join_append (Text.fields_ne_nil _) (by simp [some]),
    Text.join_append some (Text.fields_ne_nil _), Text.join_fields, Text.join_fields]
  rfl

theorem toAscii?_between (hf : IsPlainName front) (hb : IsPlainName back)
    (h : toAscii? (front ++ '.' :: (s ++ '.' :: back)) = some name) :
    ∃ t, name = front ++ '.' :: (t ++ '.' :: back) := by
  unfold toAscii? at h
  dsimp only at h
  split at h
  · split at h
    · contradiction
    · obtain rfl := Option.some.inj h
      refine ⟨s.map Char.toLower, ?_⟩
      rw [List.map_append, List.map_cons, List.map_append, List.map_cons, hf.map_toLower,
        hb.map_toLower]
      rfl
  · obtain ⟨normal, hn, h⟩ := Option.bind_eq_some_iff.mp h
    split at h
    · contradiction
    · obtain ⟨t, rfl⟩ := normalize?_between hf hb hn
      exact codeName?_between hf hb h

end Between

end CloudLookup.Url.Domain
