import CloudLookup.Text.Utf8

/-! The bytes of a text are well-formed, and the text is read back from them. -/
namespace CloudLookup.Text

namespace Utf8

section Bytes

theorem toNat_byte {n : Nat} (h : n < 256) : (UInt8.ofNat n).toNat = n :=
  UInt8.toNat_ofNat_of_lt' h

theorem byte_le (m n : Nat) (hm : m < 256) (hn : n < 256) :
    UInt8.ofNat m ≤ UInt8.ofNat n ↔ m ≤ n := by
  rw [UInt8.le_iff_toNat_le, toNat_byte hm, toNat_byte hn]

theorem byte_lt (m n : Nat) (hm : m < 256) (hn : n < 256) :
    UInt8.ofNat m < UInt8.ofNat n ↔ m < n := by
  rw [UInt8.lt_iff_toNat_lt, toNat_byte hm, toNat_byte hn]

theorem byte_beq (m n : Nat) (hm : m < 256) (hn : n < 256) :
    UInt8.ofNat m == UInt8.ofNat n ↔ m = n := by
  rw [beq_iff_eq, ← UInt8.toNat_inj, toNat_byte hm, toNat_byte hn]

theorem byte_between (low n high : Nat) (h : low ≤ n ∧ n ≤ high) (hh : high < 256) :
    (UInt8.ofNat low ≤ UInt8.ofNat n && UInt8.ofNat n ≤ UInt8.ofNat high) = true := by
  rw [Bool.and_eq_true, decide_eq_true_eq, decide_eq_true_eq, byte_le _ _ (by omega) (by omega),
    byte_le _ _ (by omega) hh]
  exact h

theorem not_byte_between (low n high : Nat) (h : high < n) (hn : n < 256) :
    ¬ (UInt8.ofNat low ≤ UInt8.ofNat n && UInt8.ofNat n ≤ UInt8.ofNat high) = true := by
  rw [Bool.and_eq_true, decide_eq_true_eq, decide_eq_true_eq, byte_le n high hn (by omega)]
  omega

theorem isTail_byte {n : Nat} (h : n < 64) : isTail (UInt8.ofNat (n + 0x80)) = true :=
  byte_between 0x80 _ 0xBF (by omega) (by omega)

theorem payload_byte {n : Nat} (h : n < 64) : payload (UInt8.ofNat (n + 0x80)) = n := by
  rw [payload, toNat_byte (by omega)]
  omega

end Bytes

variable {w x y z : Nat}

theorem next_one (hw : w < 0x80) (rest : List UInt8) :
    next (UInt8.ofNat w) rest = (some (Char.ofNat w), rest) := by
  have hl : UInt8.ofNat w < 0x80 := (byte_lt w 0x80 (by omega) (by omega)).mpr hw
  unfold next
  rw [if_pos hl, toNat_byte (by omega)]

theorem not_byte_lt_0x80 (h : 0x80 ≤ w) (hw : w < 256) : ¬ UInt8.ofNat w < 0x80 :=
  mt (byte_lt w 0x80 hw (by omega)).mp (by omega)

theorem next_two (hw : 2 ≤ w ∧ w < 0x20) (hx : x < 64) (rest : List UInt8) :
    next (UInt8.ofNat (w + 0xC0)) (UInt8.ofNat (x + 0x80) :: rest) =
      (some (Char.ofNat (w * 64 + x)), rest) := by
  have h₂ : (0xC2 ≤ UInt8.ofNat (w + 0xC0) && UInt8.ofNat (w + 0xC0) ≤ 0xDF) = true :=
    byte_between 0xC2 _ 0xDF (by omega) (by omega)
  unfold next
  rw [if_neg (not_byte_lt_0x80 (by omega) (by omega)), if_pos h₂]
  dsimp only
  rw [if_pos (isTail_byte hx), toNat_byte (by omega), payload_byte hx,
    show (w + 0xC0) % 32 = w by omega]

theorem secondByte_between (hw : w ≤ 0x14) (hx : x < 64) (h₀ : w = 0 → 0x20 ≤ x)
    (h₁ : w = 0xD → x < 0x20) (h₂ : w = 0x10 → 0x10 ≤ x) (h₃ : w = 0x14 → x < 0x10) :
    ((secondByte (UInt8.ofNat (w + 0xE0))).1 ≤ UInt8.ofNat (x + 0x80) &&
      UInt8.ofNat (x + 0x80) ≤ (secondByte (UInt8.ofNat (w + 0xE0))).2) = true := by
  have first (n : Nat) (hn : n < 256) (h : UInt8.ofNat (w + 0xE0) == UInt8.ofNat n) :
      w + 0xE0 = n := (byte_beq _ n (by omega) hn).mp h
  unfold secondByte
  split
  · have := first 0xE0 (by omega) ‹_›
    exact byte_between 0xA0 _ 0xBF (by omega) (by omega)
  · split
    · have := first 0xED (by omega) ‹_›
      exact byte_between 0x80 _ 0x9F (by omega) (by omega)
    · split
      · have := first 0xF0 (by omega) ‹_›
        exact byte_between 0x90 _ 0xBF (by omega) (by omega)
      · split
        · have := first 0xF4 (by omega) ‹_›
          exact byte_between 0x80 _ 0x8F (by omega) (by omega)
        · exact byte_between 0x80 _ 0xBF (by omega) (by omega)

section Long

variable (hw : w ≤ 0x14)
include hw

theorem not_two : ¬ (0xC2 ≤ UInt8.ofNat (w + 0xE0) && UInt8.ofNat (w + 0xE0) ≤ 0xDF) = true :=
  not_byte_between 0xC2 _ 0xDF (by omega) (by omega)

theorem three_or_four : (0xE0 ≤ UInt8.ofNat (w + 0xE0) && UInt8.ofNat (w + 0xE0) ≤ 0xF4) = true :=
  byte_between 0xE0 _ 0xF4 (by omega) (by omega)

end Long

theorem next_three (hw : w < 0x10) (hx : x < 64) (hy : y < 64) (h₀ : w = 0 → 0x20 ≤ x)
    (h₁ : w = 0xD → x < 0x20) (rest : List UInt8) :
    next (UInt8.ofNat (w + 0xE0)) (UInt8.ofNat (x + 0x80) :: UInt8.ofNat (y + 0x80) :: rest) =
      (some (Char.ofNat ((w * 64 + x) * 64 + y)), rest) := by
  have hf : UInt8.ofNat (w + 0xE0) < 0xF0 := (byte_lt _ 0xF0 (by omega) (by omega)).mpr (by omega)
  have ht : ¬ (!isTail (UInt8.ofNat (y + 0x80))) = true := by rw [isTail_byte hy]; decide
  unfold next
  rw [if_neg (not_byte_lt_0x80 (by omega) (by omega)), if_neg (not_two (by omega)),
    if_pos (three_or_four (by omega))]
  dsimp only
  rw [if_pos (secondByte_between (by omega) hx h₀ h₁ (by omega) (by omega)), if_neg ht, if_pos hf,
    toNat_byte (by omega), payload_byte hx, payload_byte hy, show (w + 0xE0) % 16 = w by omega]

theorem next_four (hw : w ≤ 4) (hx : x < 64) (hy : y < 64) (hz : z < 64) (h₀ : w = 0 → 0x10 ≤ x)
    (h₁ : w = 4 → x < 0x10) (rest : List UInt8) :
    next (UInt8.ofNat (w + 0x10 + 0xE0))
        (UInt8.ofNat (x + 0x80) :: UInt8.ofNat (y + 0x80) :: UInt8.ofNat (z + 0x80) :: rest) =
      (some (Char.ofNat (((w * 64 + x) * 64 + y) * 64 + z)), rest) := by
  have hf : ¬ UInt8.ofNat (w + 0x10 + 0xE0) < 0xF0 :=
    mt (byte_lt _ 0xF0 (by omega) (by omega)).mp (by omega)
  have ht : ¬ (!isTail (UInt8.ofNat (y + 0x80))) = true := by rw [isTail_byte hy]; decide
  unfold next
  rw [if_neg (not_byte_lt_0x80 (by omega) (by omega)), if_neg (not_two (by omega)),
    if_pos (three_or_four (by omega))]
  dsimp only
  rw [if_pos (secondByte_between (by omega) hx (by omega) (by omega) (by omega) (by omega)),
    if_neg ht, if_neg hf, if_pos (isTail_byte hz), toNat_byte (by omega), payload_byte hx,
    payload_byte hy, payload_byte hz, show (w + 0x10 + 0xE0) % 8 = w by omega]

theorem parts_utf8EncodeChar (c : Char) (rest : List UInt8) :
    parts (String.utf8EncodeChar c ++ rest) = some c :: parts rest := by
  have hv : c.val.toNat < 0xD800 ∨ 0xDFFF < c.val.toNat ∧ c.val.toNat < 0x110000 := c.valid
  have hc : Char.ofNat c.val.toNat = c := Char.ofNat_toNat c
  unfold String.utf8EncodeChar
  dsimp only
  -- From here on the character is its number, and its bytes hold the digits to base 64.
  generalize c.val.toNat = v at hv hc
  split
  · rw [List.singleton_append, parts, next_one (by omega), hc]
  · split
    · rw [List.cons_append, List.singleton_append, parts,
        next_two (by omega) (by omega),
        show v / 64 % 0x20 * 64 + v % 0x40 = v by omega, hc]
    · split
      · rw [List.cons_append, List.cons_append, List.singleton_append, parts,
          next_three (by omega) (by omega) (by omega) (by omega) (by omega),
          show (v / 4096 % 0x10 * 64 + v / 64 % 0x40) * 64 + v % 0x40 = v by omega, hc]
      · rw [List.cons_append, List.cons_append, List.cons_append, List.singleton_append, parts,
          show v / 262144 % 0x08 + 0xF0 = v / 262144 % 0x08 + 0x10 + 0xE0 from rfl,
          next_four (by omega) (by omega) (by omega) (by omega) (by omega) (by omega),
          show ((v / 262144 % 0x08 * 64 + v / 4096 % 0x40) * 64 + v / 64 % 0x40) * 64 + v % 0x40 = v
            by omega, hc]

theorem parts_utf8_append (s : List Char) (rest : List UInt8) :
    parts (utf8 s ++ rest) = s.map some ++ parts rest := by
  induction s with
  | nil => rfl
  | cons c s ih =>
    rw [utf8_cons, List.append_assoc, parts_utf8EncodeChar, ih, List.map_cons, List.cons_append]

theorem parts_utf8 (s : List Char) : parts (utf8 s) = s.map some := by
  have h := parts_utf8_append s []
  rwa [List.append_nil, parts, List.append_nil] at h

theorem next_append {b : UInt8} (hb : b < 0x80) (a : UInt8) (s t : List UInt8) :
    next a (s ++ b :: t) = ((next a s).1, (next a s).2 ++ b :: t) := by
  have low {first : UInt8} (h : 0x80 ≤ first) : ¬ first ≤ b :=
    UInt8.not_le.mpr (UInt8.lt_of_lt_of_le hb h)
  have noTail : isTail b = false := by
    rw [isTail, decide_eq_false (low (UInt8.le_refl _)), Bool.false_and]
  have noSecond : ¬ ((secondByte a).1 ≤ b && b ≤ (secondByte a).2) = true := by
    have bound : 0x80 ≤ (secondByte a).1 := by
      unfold secondByte
      repeat' split
      all_goals decide
    rw [decide_eq_false (low bound), Bool.false_and]
    exact Bool.false_ne_true
  unfold next
  split
  · rfl
  · split
    · cases s with
      | nil => simp [noTail]
      | cons x s =>
        simp only [List.cons_append]
        split <;> rfl
    · split
      · cases s with
        | nil => simp [noSecond]
        | cons x s =>
          simp only [List.cons_append]
          split
          · cases s with
            | nil => simp [noTail]
            | cons y s =>
              simp only [List.cons_append]
              split
              · rfl
              · split
                · rfl
                · cases s with
                  | nil => simp [noTail]
                  | cons z s =>
                    simp only [List.cons_append]
                    split <;> rfl
          · rfl
      · rfl

theorem parts_append {b : UInt8} (hb : b < 0x80) (s t : List UInt8) :
    parts (s ++ b :: t) = parts s ++ parts (b :: t) := by
  induction s using parts.induct with
  | case1 => rw [List.nil_append, parts, List.nil_append]
  | case2 a s ih =>
    rw [List.cons_append, parts, next_append hb, ih]
    rw [parts.eq_2 a s, List.cons_append]

end Utf8

theorem utf8_append (s t : List Char) : utf8 (s ++ t) = utf8 s ++ utf8 t := List.flatMap_append

theorem ofUtf8Lossy_utf8 (s : List Char) : ofUtf8Lossy (utf8 s) = s := by
  rw [ofUtf8Lossy, Utf8.parts_utf8, List.map_map]
  exact List.map_id s

theorem ofUtf8?_utf8_append (s : List Char) (bytes : List UInt8) :
    ofUtf8? (utf8 s ++ bytes) = (ofUtf8? bytes).map (s ++ ·) := by
  unfold ofUtf8?
  rw [Utf8.parts_utf8_append]
  induction s with
  | nil => simp
  | cons c s ih =>
    rw [List.map_cons, List.cons_append, List.mapM_cons, ih]
    cases (Utf8.parts bytes).mapM id <;> rfl

theorem ofUtf8?_utf8 (s : List Char) : ofUtf8? (utf8 s) = some s := by
  have h := ofUtf8?_utf8_append s []
  have nothing : ofUtf8? [] = some [] := by
    rw [ofUtf8?, Utf8.parts]
    rfl
  rwa [List.append_nil, nothing, Option.map_some, List.append_nil] at h

theorem ofUtf8?_append {b : UInt8} (hb : b < 0x80) {bytes more : List UInt8} {s : List Char}
    (h : ofUtf8? (bytes ++ b :: more) = some s) :
    ∃ first rest, ofUtf8? bytes = some first ∧ ofUtf8? (b :: more) = some rest ∧
      s = first ++ rest := by
  unfold ofUtf8? at h ⊢
  rw [Utf8.parts_append hb, List.mapM_append] at h
  obtain ⟨first, hf, h⟩ := Option.bind_eq_some_iff.mp h
  obtain ⟨rest, hr, h⟩ := Option.bind_eq_some_iff.mp h
  exact ⟨first, rest, hf, hr, (Option.some.inj h).symm⟩

theorem utf8_inj {s t : List Char} : utf8 s = utf8 t ↔ s = t := by
  constructor
  · intro h
    rw [← ofUtf8Lossy_utf8 s, h, ofUtf8Lossy_utf8]
  · rintro rfl
    rfl

theorem utf8_prefix_iff {s t : List Char} : utf8 s <+: utf8 t ↔ s <+: t := by
  constructor
  · rintro ⟨bytes, ht⟩
    have read := ofUtf8?_utf8_append s bytes
    rw [ht, ofUtf8?_utf8] at read
    obtain ⟨rest, -, ht⟩ := Option.map_eq_some_iff.mp read.symm
    exact ⟨rest, ht⟩
  · rintro ⟨rest, rfl⟩
    exact ⟨utf8 rest, (utf8_append s rest).symm⟩

theorem length_utf8 (s : List Char) : (utf8 s).length = utf8Length s := by
  induction s with
  | nil => rfl
  | cons c s ih =>
    rw [utf8_cons, List.length_append, String.length_utf8EncodeChar, ih, utf8Length]

theorem utf8Length_append (s t : List Char) :
    utf8Length (s ++ t) = utf8Length s + utf8Length t := by
  rw [← length_utf8, utf8_append, List.length_append, length_utf8, length_utf8]

end CloudLookup.Text
