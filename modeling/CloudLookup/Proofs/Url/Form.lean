import CloudLookup.Proofs.Text.Cutting
import CloudLookup.Proofs.Url.Percent
import CloudLookup.Url.Form

/-! Forms are read back: no name and no value can hold what separates them from others. -/
namespace CloudLookup.Url.Form

def writeChar (c : Char) : List Char :=
  if c = ' ' then ['+'] else if isPlain c then [c] else percentChar c

@[simp] theorem encodeText_nil : encodeText [] = [] := rfl

@[simp] theorem encodeText_cons (c : Char) (s : List Char) :
    encodeText (c :: s) = writeChar c ++ encodeText s := List.flatMap_cons

theorem digit_mem : ∀ n < 16, (Nat.digitChar n).toUpper ∈ "0123456789ABCDEF".toList := by decide

theorem mem_percentChar {c x : Char} (h : x ∈ percentChar c) :
    x ∈ "%0123456789ABCDEF".toList := by
  obtain ⟨b, -, hx⟩ := List.mem_flatMap.mp h
  have small : b.toNat < 256 := b.toNat_lt_size
  have digit {n : Nat} (hn : n < 16) : (Nat.digitChar n).toUpper ∈ "%0123456789ABCDEF".toList :=
    List.mem_cons_of_mem _ (digit_mem n hn)
  simp only [percentByte, List.mem_cons, List.not_mem_nil, or_false] at hx
  obtain rfl | rfl | rfl := hx
  · decide
  · exact digit (by omega)
  · exact digit (by omega)

theorem ne_of_isPlain {c x : Char} (hc : isPlain c) (hx : isPlain x = false) : c ≠ x := by
  rintro rfl
  rw [hc] at hx
  contradiction

theorem separator_not_mem {x : Char} (hx : x = '&' ∨ x = '=') (s : List Char) :
    x ∉ encodeText s := by
  have other : isPlain x = false ∧ x ≠ '+' ∧ x ∉ "%0123456789ABCDEF".toList := by
    obtain rfl | rfl := hx <;> decide
  obtain ⟨notPlain, notPlus, notCode⟩ := other
  induction s with
  | nil => simp
  | cons c s ih =>
    rw [encodeText_cons, List.mem_append, not_or]
    refine ⟨?_, ih⟩
    unfold writeChar
    split
    · simpa using notPlus
    · split
      · rename_i plain
        simpa using (ne_of_isPlain plain notPlain).symm
      · exact mt mem_percentChar notCode

def ofPlus (c : Char) : Char := if c = '+' then ' ' else c

theorem map_ofPlus_percentChar (c : Char) : (percentChar c).map ofPlus = percentChar c := by
  have noPlus : '+' ∉ percentChar c := mt mem_percentChar (by decide)
  have same : ∀ x ∈ percentChar c, ofPlus x = id x :=
    fun x hx => if_neg fun plus : x = '+' => noPlus (plus ▸ hx)
  rw [List.map_congr_left same, List.map_id]

theorem percentDecode_encodeText (s : List Char) :
    percentDecode ((encodeText s).map ofPlus) = Text.utf8 s := by
  induction s with
  | nil => rfl
  | cons c s ih =>
    rw [encodeText_cons, List.map_append]
    unfold Text.utf8 at ih ⊢
    rw [List.flatMap_cons, ← ih]
    unfold writeChar
    split
    · rename_i space
      rw [space]
      exact percentDecode_cons (by decide) _
    · split
      · rename_i plain
        have plus : ofPlus c = c := if_neg (ne_of_isPlain plain (by decide))
        rw [List.map_singleton, plus]
        exact percentDecode_cons (ne_of_isPlain plain (by decide)) _
      · rw [map_ofPlus_percentChar]
        exact percentDecode_flatMap _ _

theorem decodeText_encodeText (s : String) : decodeText (encodeText s.toList) = s := by
  change String.ofList (Text.ofUtf8Lossy (percentDecode ((encodeText s.toList).map ofPlus))) = s
  rw [percentDecode_encodeText, Text.ofUtf8Lossy_utf8, String.ofList_toList]

def writePair (pair : String × String) : List Char :=
  encodeText pair.1.toList ++ '=' :: encodeText pair.2.toList

theorem writePair_ne_nil (pair : String × String) : writePair pair ≠ [] := by simp [writePair]

theorem ampersand_not_mem_writePair (pair : String × String) : '&' ∉ writePair pair := by
  have h := separator_not_mem (.inl rfl)
  simp [writePair, h]

def readPair (part : List Char) : String × String :=
  let (name, value) := (Text.splitFirst '=' part).getD (part, [])
  (decodeText name, decodeText value)

theorem readPair_writePair (pair : String × String) : readPair (writePair pair) = pair := by
  unfold readPair writePair
  rw [Text.splitFirst_append (separator_not_mem (.inr rfl) _)]
  exact Prod.ext (decodeText_encodeText _) (decodeText_encodeText _)

theorem decode_encode (pairs : List (String × String)) : decode (encode pairs) = pairs := by
  change (((Text.fields '&' (Text.join ['&'] (pairs.map writePair))).filter
    fun part => !part.isEmpty).map readPair) = pairs
  cases pairs with
  | nil => rfl
  | cons pair pairs =>
    have noSeparator : ∀ part ∈ (pair :: pairs).map writePair, '&' ∉ part :=
      List.forall_mem_map.mpr fun p _ => ampersand_not_mem_writePair p
    have kept : ((pair :: pairs).map writePair).filter (fun part => !part.isEmpty) =
        (pair :: pairs).map writePair := by
      apply List.filter_eq_self.mpr
      intro part h
      obtain ⟨p, -, rfl⟩ := List.mem_map.mp h
      simp [writePair_ne_nil]
    rw [Text.fields_join (by simp) noSeparator, kept, List.map_map]
    exact List.map_id'' readPair_writePair _

end CloudLookup.Url.Form
