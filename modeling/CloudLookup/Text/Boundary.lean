import CloudLookup.Text.Utf8

/-! Cutting texts at offsets in their bytes. A cut divides no character, so the place for it is
looked for from the greatest offset that is allowed back to the start, where one is found. -/
namespace CloudLookup.Text

def isBoundary (bytes : List UInt8) (offset : Nat) : Bool :=
  offset == 0 ||
    match bytes[offset]? with
    | some b => !Utf8.isTail b
    | none => offset == bytes.length

/-- The boundary at an offset, or the nearest one before it. There is none if the search gets past
the start. -/
def boundary? (bytes : List UInt8) : Nat → Option Nat
  | 0 => if isBoundary bytes 0 then some 0 else none
  | n + 1 => if isBoundary bytes (n + 1) then some (n + 1) else boundary? bytes n

def before? : Nat → List Char → Option (List Char)
  | 0, _ => some []
  | _ + 1, [] => none
  | n + 1, c :: s =>
    if c.utf8Size ≤ n + 1 then (before? (n + 1 - c.utf8Size) s).map (c :: ·) else none

/-- The text before the last boundary within so many bytes. -/
def cut? (bytes : Nat) (s : List Char) : Option (List Char) :=
  (boundary? (utf8 s) bytes).bind fun stop => before? stop s

theorem Utf8.isTail_ofNat {n : Nat} (h : n < 256) :
    isTail (UInt8.ofNat n) = decide (0x80 ≤ n ∧ n ≤ 0xBF) := by
  rw [Bool.eq_iff_iff, isTail, Bool.and_eq_true, decide_eq_true_eq, decide_eq_true_eq,
    decide_eq_true_eq, UInt8.le_iff_toNat_le, UInt8.le_iff_toNat_le, UInt8.toNat_ofNat_of_lt' h]
  rfl

theorem Utf8.isTail_utf8EncodeChar {c : Char} {n : Nat} {b : UInt8}
    (h : (String.utf8EncodeChar c)[n]? = some b) : isTail b = decide (0 < n) := by
  have hv : c.val.toNat < 0xD800 ∨ 0xDFFF < c.val.toNat ∧ c.val.toNat < 0x110000 := c.valid
  unfold String.utf8EncodeChar at h
  dsimp only at h
  generalize c.val.toNat = v at hv h
  -- A character has four bytes at most, and each shows by its range what it is.
  repeat' split at h
  all_goals
    match n with
    | 0 | 1 | 2 | 3 => cases h <;> rw [isTail_ofNat (by omega), decide_eq_decide] <;> omega
    | _ + 4 => cases h

section Boundaries

variable (c : Char) (s : List Char)

theorem getElem?_utf8_inside {n : Nat} (h : n < c.utf8Size) :
    (utf8 (c :: s))[n]? = (String.utf8EncodeChar c)[n]? := by
  rw [utf8_cons, List.getElem?_append_left (String.length_utf8EncodeChar c ▸ h)]

theorem getElem?_utf8_after (n : Nat) : (utf8 (c :: s))[c.utf8Size + n]? = (utf8 s)[n]? := by
  rw [utf8_cons, List.getElem?_append_right (String.length_utf8EncodeChar c ▸ Nat.le_add_right ..),
    String.length_utf8EncodeChar, Nat.add_sub_cancel_left]

theorem not_isBoundary_inside {n : Nat} (positive : 0 < n) (inside : n < c.utf8Size) :
    isBoundary (utf8 (c :: s)) n = false := by
  have there : n < (String.utf8EncodeChar c).length := String.length_utf8EncodeChar c ▸ inside
  have byte := List.getElem?_eq_getElem there
  rw [isBoundary, getElem?_utf8_inside c s inside, byte]
  dsimp only
  rw [Utf8.isTail_utf8EncodeChar byte, decide_eq_true positive, beq_false_of_ne (by omega)]
  rfl

theorem isBoundary_after (n : Nat) :
    isBoundary (utf8 (c :: s)) (c.utf8Size + n) = isBoundary (utf8 s) n := by
  have positive : 0 < c.utf8Size := c.utf8Size_pos
  have length : (utf8 (c :: s)).length = c.utf8Size + (utf8 s).length := by
    rw [utf8_cons, List.length_append, String.length_utf8EncodeChar]
  rw [isBoundary, getElem?_utf8_after, length, beq_false_of_ne (by omega), isBoundary]
  cases n with
  | zero =>
    -- The next character, if there is one, starts with a byte that continues none.
    cases s with
    | nil => simp [utf8]
    | cons d s =>
      have there : 0 < (String.utf8EncodeChar d).length :=
        String.length_utf8EncodeChar d ▸ d.utf8Size_pos
      have byte := List.getElem?_eq_getElem there
      rw [getElem?_utf8_inside d s d.utf8Size_pos, byte]
      dsimp only
      rw [Utf8.isTail_utf8EncodeChar byte]
      rfl
  | succ n =>
    rw [beq_false_of_ne (Nat.succ_ne_zero n)]
    cases (utf8 s)[n + 1]? with
    | some b => rfl
    | none =>
      rw [Bool.eq_iff_iff, Bool.false_or, Bool.false_or, beq_iff_eq, beq_iff_eq]
      omega

theorem isBoundary_utf8 (n : Nat) : isBoundary (utf8 s) n = (before? n s).isSome := by
  induction s generalizing n with
  | nil =>
    cases n <;> rfl
  | cons c s ih =>
    cases n with
    | zero => rfl
    | succ n =>
      rw [before?]
      split
      · rename_i fits
        have split : n + 1 = c.utf8Size + (n + 1 - c.utf8Size) := by omega
        rw [split, isBoundary_after, ih, Option.isSome_map, ← split]
      · rename_i divided
        exact not_isBoundary_inside c s n.succ_pos (Nat.lt_of_not_le divided)

end Boundaries

theorem boundary?_spec (bytes : List UInt8) (most : Nat) :
    ∃ stop, boundary? bytes most = some stop ∧ stop ≤ most ∧ isBoundary bytes stop = true ∧
      ∀ n, n ≤ most → isBoundary bytes n = true → n ≤ stop := by
  induction most with
  | zero => exact ⟨0, rfl, Nat.le_refl 0, rfl, fun n hn _ => hn⟩
  | succ most ih =>
    rw [boundary?]
    split
    · rename_i here
      exact ⟨most + 1, rfl, Nat.le_refl _, here, fun n hn _ => hn⟩
    · rename_i divided
      obtain ⟨stop, found, small, boundary, last⟩ := ih
      refine ⟨stop, found, by omega, boundary, fun n hn hb => last n ?_ hb⟩
      have other : n ≠ most + 1 := by
        rintro rfl
        exact divided hb
      omega

theorem isSome_cut? (bytes : Nat) (s : List Char) : (cut? bytes s).isSome := by
  obtain ⟨stop, found, -, boundary, -⟩ := boundary?_spec (utf8 s) bytes
  rw [cut?, found, Option.bind_some, ← isBoundary_utf8, boundary]

def cut (bytes : Nat) (s : List Char) : List Char := (cut? bytes s).get (isSome_cut? bytes s)

theorem cut?_eq (bytes : Nat) (s : List Char) : cut? bytes s = some (cut bytes s) :=
  (Option.some_get _).symm

end CloudLookup.Text
