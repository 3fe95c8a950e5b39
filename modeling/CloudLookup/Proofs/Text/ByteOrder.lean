import CloudLookup.Proofs.Text.Utf8

/-! The order of texts is that of their bytes: the first character in which two texts differ has the
first byte in which they differ. -/
namespace CloudLookup.Text

theorem byte_cons_lt {m n : Nat} (hm : m < 256) (hn : n < 256) (s t : List UInt8) :
    UInt8.ofNat m :: s < UInt8.ofNat n :: t ↔ m < n ∨ m = n ∧ s < t := by
  rw [List.cons_lt_cons_iff, Utf8.byte_lt m n hm hn, ← UInt8.toNat_inj, Utf8.toNat_byte hm,
    Utf8.toNat_byte hn]

theorem digits_lt {m n : Nat} (h : m < n) :
    m / 64 < n / 64 ∨ m / 64 = n / 64 ∧ m % 64 < n % 64 := by
  omega

theorem utf8EncodeChar_lt {c d : Char} (h : c < d) (s t : List UInt8) :
    String.utf8EncodeChar c ++ s < String.utf8EncodeChar d ++ t := by
  have hc : c.val.toNat < 0xD800 ∨ 0xDFFF < c.val.toNat ∧ c.val.toNat < 0x110000 := c.valid
  have hd : d.val.toNat < 0xD800 ∨ 0xDFFF < d.val.toNat ∧ d.val.toNat < 0x110000 := d.valid
  have less : c.val.toNat < d.val.toNat := h
  unfold String.utf8EncodeChar
  dsimp only
  generalize c.val.toNat = v at hc less
  generalize d.val.toNat = w at hd less
  -- The bytes hold the digits to base 64, and the first of them what is left of the number.
  have shorter (n : Nat) : n / 64 / 64 = n / 4096 ∧ n / 4096 / 64 = n / 262144 :=
    ⟨Nat.div_div_eq_div_mul n 64 64, Nat.div_div_eq_div_mul n 4096 64⟩
  have left (n : Nat) (h : n < 0x110000) : n / 262144 % 8 = n / 262144 := by omega
  have last := digits_lt less
  have middle := digits_lt (m := v / 64) (n := w / 64)
  have front := digits_lt (m := v / 4096) (n := w / 4096)
  rw [(shorter v).1, (shorter w).1] at middle
  rw [(shorter v).2, (shorter w).2] at front
  have hv := left v (by omega)
  have hw := left w (by omega)
  repeat' split
  all_goals simp (disch := omega) only [List.cons_append, List.nil_append, byte_cons_lt]
  all_goals omega

theorem utf8_lt {s t : List Char} (h : s < t) : utf8 s < utf8 t := by
  induction h with
  | @nil c t =>
    obtain ⟨b, bytes, hb⟩ := List.exists_cons_of_ne_nil (String.utf8EncodeChar_ne_nil (c := c))
    rw [utf8, utf8, List.flatMap_nil, List.flatMap_cons, hb]
    exact List.nil_lt_cons b _
  | cons _ ih => exact List.append_left_lt ih
  | rel h => exact utf8EncodeChar_lt h _ _

end CloudLookup.Text
