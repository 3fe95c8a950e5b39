import CloudLookup.Proofs.Text.Utf8
import CloudLookup.Url.Percent

/-! Percent encoding is undone by decoding, whatever characters are encoded besides the percent
sign. -/
namespace CloudLookup.Url

theorem hexValue?_digit : ∀ n < 16, hexValue? (Nat.digitChar n).toUpper = some n := by decide

theorem percentDecode_percentByte (b : UInt8) (rest : List Char) :
    percentDecode (percentByte b ++ rest) = b :: percentDecode rest := by
  have hb : b.toNat < 256 := b.toNat_lt_size
  have value : 16 * (b.toNat / 16) + b.toNat % 16 = b.toNat := by omega
  unfold percentByte
  simp only [List.cons_append, List.nil_append, percentDecode]
  rw [hexValue?_digit _ (by omega), hexValue?_digit _ (by omega)]
  simp only [value]
  congr 1
  exact UInt8.ofNat_toNat

theorem percentDecode_flatMap (bytes : List UInt8) (rest : List Char) :
    percentDecode (bytes.flatMap percentByte ++ rest) = bytes ++ percentDecode rest := by
  induction bytes with
  | nil => rfl
  | cons b bytes ih =>
    rw [List.flatMap_cons, List.append_assoc, percentDecode_percentByte, ih, List.cons_append]

theorem percentDecode_cons {c : Char} (h : c ≠ '%') (rest : List Char) :
    percentDecode (c :: rest) = String.utf8EncodeChar c ++ percentDecode rest := by
  rw [percentDecode]
  intro a b s hc
  simp [h] at hc

theorem percentDecode_append (s t : List Char) :
    percentDecode (s ++ '.' :: t) = percentDecode s ++ percentDecode ('.' :: t) := by
  fun_induction percentDecode s with
  | case1 => rfl
  | case2 a b s x y hx hy ih =>
    simp only [List.cons_append, percentDecode, hx, hy, ih]
  | case3 a b s h ih =>
    simp only [List.cons_append, percentDecode]
    exact congrArg (0x25 :: ·) ih
  | case4 c s h ih =>
    rw [List.append_assoc, ← ih]
    by_cases hc : c = '%'
    · subst hc
      have percent : String.utf8EncodeChar '%' = [0x25] := rfl
      have point : hexValue? '.' = none := rfl
      match s with
      | [] => cases t <;> simp [percentDecode, point, percent]
      | [a] => simp [percentDecode, point, percent]
      | a :: b :: s => exact absurd rfl (h a b s rfl)
    · exact percentDecode_cons hc _

theorem percentDecode_plain {s : List Char} (h : '%' ∉ s) : percentDecode s = Text.utf8 s := by
  induction s with
  | nil => rfl
  | cons c s ih =>
    obtain ⟨hc, hs⟩ := not_or.mp (mt List.mem_cons.mpr h)
    rw [percentDecode_cons (Ne.symm hc), ih hs, Text.utf8, Text.utf8, List.flatMap_cons]

theorem percentDecode_percentEncode {encoded : Char → Bool} (h : encoded '%') (s : List Char) :
    percentDecode (percentEncode encoded s) = Text.utf8 s := by
  induction s with
  | nil => rfl
  | cons c s ih =>
    unfold percentEncode Text.utf8 at ih ⊢
    rw [List.flatMap_cons, List.flatMap_cons]
    split
    · rw [percentChar, percentDecode_flatMap, ih]
    · rename_i hc
      have plain : c ≠ '%' := fun hp => hc (hp ▸ h)
      rw [List.singleton_append, percentDecode_cons plain, ih]

theorem percentEncode_inj {encoded : Char → Bool} (h : encoded '%') {s t : List Char} :
    percentEncode encoded s = percentEncode encoded t ↔ s = t := by
  constructor
  · intro he
    rw [← Text.utf8_inj, ← percentDecode_percentEncode h, he, percentDecode_percentEncode h]
  · rintro rfl
    rfl

end CloudLookup.Url
