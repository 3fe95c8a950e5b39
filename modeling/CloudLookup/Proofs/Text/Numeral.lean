import CloudLookup.Text.Numeral

/-! Numerals: the digits of a number denote it, and a text that is read as a number has digits and at
most a plus sign. -/
namespace CloudLookup.Text

theorem decimal_ne_nil (n : Nat) : decimal n ≠ [] := Nat.toDigits_ne_nil

theorem isDigit_of_mem_decimal {n : Nat} {c : Char} (h : c ∈ decimal n) : c.isDigit :=
  Nat.isDigit_of_mem_toDigits (by decide) (by decide) h

theorem not_mem_decimal {c : Char} (h : c.isDigit = false) (n : Nat) : c ∉ decimal n := by
  intro hc
  rw [isDigit_of_mem_decimal hc] at h
  contradiction

theorem digits?_decimal (n : Nat) : digits? (decimal n) = some n := by
  have digits : (decimal n).all Char.isDigit :=
    List.all_eq_true.mpr fun c hc => isDigit_of_mem_decimal hc
  have value : numberOf (decimal n) = n := by
    have h := Nat.ofDigitChars_ten_toDigits (n := n)
    rwa [Nat.ofDigitChars_eq_foldl] at h
  simp [digits?, digits, value, decimal_ne_nil]

theorem unsigned?_decimal {n : Nat} (h : n < 0x10000000000000000) :
    unsigned? (decimal n) = some n := by
  have noSign := not_mem_decimal (c := '+') rfl n
  unfold unsigned?
  split
  · rename_i signed
    rw [signed] at noSign
    exact absurd List.mem_cons_self noSign
  · simp [digits?_decimal, h]

theorem isDigit_of_digits? {s : List Char} {n : Nat} (h : digits? s = some n) :
    s ≠ [] ∧ ∀ c ∈ s, c.isDigit := by
  unfold digits? at h
  split at h
  · contradiction
  · simp_all

theorem digits_of_unsigned? {s : List Char} {n : Nat} (h : unsigned? s = some n) :
    s ≠ [] ∧ ∀ c ∈ s, c = '+' ∨ c.isDigit := by
  unfold unsigned? at h
  obtain ⟨digits, -⟩ := Option.filter_eq_some_iff.mp h
  split at digits
  · obtain ⟨-, all⟩ := isDigit_of_digits? digits
    refine ⟨List.cons_ne_nil _ _, fun c hc => ?_⟩
    exact (List.mem_cons.mp hc).imp_right (all c)
  · obtain ⟨some, all⟩ := isDigit_of_digits? digits
    exact ⟨some, fun c hc => .inr (all c hc)⟩

end CloudLookup.Text
