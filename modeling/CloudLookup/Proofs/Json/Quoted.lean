import CloudLookup.Json.Printer
import CloudLookup.Json.Reader

/-! Printed texts are read back, each character from its code. -/
namespace CloudLookup.Json

open Text (Taken)

def Reads (reader : Reader α) (s : List Char) (value : α) (rest : List Char) : Prop :=
  ∃ shorter, reader s = .ok ⟨value, rest, shorter⟩

theorem Reads.unique {reader : Reader α} {s rest rest' : List Char} {a a' : α}
    (h : Reads reader s a rest) (h' : Reads reader s a' rest') : a = a' ∧ rest = rest' := by
  obtain ⟨shorter, h⟩ := h
  obtain ⟨shorter', h'⟩ := h'
  rw [h] at h'
  cases h'
  exact ⟨rfl, rfl⟩

section Quoted

variable {rules : Rules} {c : Char}

theorem hexValue?_hexDigit {n : Nat} (h : n < 16) : hexValue? (hexDigit n) = some n := by
  have all : ∀ n : Fin 16, hexValue? (hexDigit n) = some n.val := by decide
  exact all ⟨n, h⟩

theorem reads_hex_control (h : c.toNat < 32) (rest : List Char) :
    Reads readHex ('0' :: '0' :: hexDigit (c.toNat / 16) :: hexDigit (c.toNat % 16) :: rest)
      c.toNat rest := by
  have zero : hexValue? '0' = some 0 := by decide
  have value : ((0 * 16 + 0) * 16 + c.toNat / 16) * 16 + c.toNat % 16 = c.toNat := by omega
  refine ⟨by simp only [List.length_cons]; omega, ?_⟩
  unfold readHex
  simp only [zero, hexValue?_hexDigit (show c.toNat / 16 < 16 by omega),
    hexValue?_hexDigit (show c.toNat % 16 < 16 by omega), value]

theorem reads_escape_control (h : c.toNat < 32) (rest : List Char) :
    Reads (readEscape rules)
      ('u' :: '0' :: '0' :: hexDigit (c.toNat / 16) :: hexDigit (c.toNat % 16) :: rest) c rest := by
  obtain ⟨shorter, hex⟩ := reads_hex_control h rest
  have noSurrogate : (isLowSurrogate c.toNat || isHighSurrogate c.toNat) = false := by
    unfold isLowSurrogate isHighSurrogate
    rw [decide_eq_false (show ¬ 0xDC00 ≤ c.toNat by omega),
      decide_eq_false (show ¬ 0xD800 ≤ c.toNat by omega)]
    rfl
  have point : readCodePoint rules _ = .ok ⟨c, rest, shorter⟩ := by
    unfold readCodePoint
    rw [hex]
    change (if (isLowSurrogate c.toNat || isHighSurrogate c.toNat) = true then _ else _) = _
    rw [noSurrogate, if_neg Bool.false_ne_true, Char.ofNat_toNat]
  refine ⟨Nat.lt_succ_of_lt shorter, ?_⟩
  rw [readEscape, point]
  rfl

def escapes : List (Char × Char) :=
  [('"', '"'), ('\\', '\\'), ('\x08', 'b'), ('\x0C', 'f'), ('\n', 'n'), ('\r', 'r'), ('\t', 't')]

theorem printChar_escapes :
    ∀ p ∈ escapes, printChar p.1 = ['\\', p.2] ∧ p.2 ≠ 'u' ∧ escaped? p.2 = some p.1 := by
  decide

theorem printChar_of_no_letter (h : c ∉ escapes.map Prod.fst) :
    printChar c = if c.toNat < 32 then
      ['\\', 'u', '0', '0', hexDigit (c.toNat / 16), hexDigit (c.toNat % 16)] else [c] := by
  simp only [escapes, List.map_cons, List.map_nil, List.mem_cons, List.not_mem_nil, or_false,
    not_or] at h
  obtain ⟨hq, hs, hb, hf, hn, hr, ht⟩ := h
  rw [printChar, if_neg hq, if_neg hs, if_neg hb, if_neg hf, if_neg hn, if_neg hr, if_neg ht]

theorem reads_escape_letter {x : Char} (hx : x ≠ 'u') (hc : escaped? x = some c)
    (rest : List Char) : Reads (readEscape rules) (x :: rest) c rest := by
  refine ⟨Nat.lt_succ_self _, ?_⟩
  rw [readEscape, hc]
  exact hx

theorem printChar_cases (c : Char) :
    (printChar c = [c] ∧ c ≠ '"' ∧ c ≠ '\\' ∧ ¬ c.toNat < 32) ∨
      ∃ code, printChar c = '\\' :: code ∧
        ∀ rules rest, Reads (readEscape rules) (code ++ rest) c rest := by
  by_cases hl : c ∈ escapes.map Prod.fst
  · obtain ⟨p, hp, rfl⟩ := List.mem_map.mp hl
    obtain ⟨code, hu, he⟩ := printChar_escapes p hp
    exact .inr ⟨_, code, fun _ rest => reads_escape_letter hu he rest⟩
  · have code := printChar_of_no_letter hl
    by_cases hc : c.toNat < 32
    · rw [if_pos hc] at code
      exact .inr ⟨_, code, fun _ rest => reads_escape_control hc rest⟩
    · rw [if_neg hc] at code
      refine .inl ⟨code, ?_, ?_, hc⟩
      all_goals
        rintro rfl
        exact hl (by decide)

theorem reads_quoted_plain {s text rest : List Char} (hq : c ≠ '"') (hb : c ≠ '\\')
    (hc : ¬ c.toNat < 32) (h : Reads (readQuoted rules) s text rest) :
    Reads (readQuoted rules) (c :: s) (c :: text) rest := by
  obtain ⟨shorter, hs⟩ := h
  refine ⟨Nat.lt_succ_of_lt shorter, ?_⟩
  rw [readQuoted, if_neg hc, hs]
  · rfl
  · exact hq
  · exact hb

theorem reads_quoted_escape {s t text rest : List Char} (hc : Reads (readEscape rules) s c t)
    (h : Reads (readQuoted rules) t text rest) :
    Reads (readQuoted rules) ('\\' :: s) (c :: text) rest := by
  obtain ⟨shorterCode, hcode⟩ := hc
  obtain ⟨shorter, ht⟩ := h
  refine ⟨by rw [List.length_cons]; omega, ?_⟩
  rw [readQuoted, hcode]
  change (readQuoted rules t >>= _) = _
  rw [ht]
  rfl

theorem reads_quoted (rules : Rules) (text rest : List Char) :
    Reads (readQuoted rules) (text.flatMap printChar ++ '"' :: rest) text rest := by
  induction text with
  | nil =>
    have h : readQuoted rules ('"' :: rest) = .ok ⟨[], rest, Nat.lt_succ_self _⟩ := by
      rw [readQuoted]
    exact ⟨_, h⟩
  | cons c text ih =>
    rw [List.flatMap_cons, List.append_assoc]
    obtain ⟨hp, hq, hb, hc⟩ | ⟨code, hp, hcode⟩ := printChar_cases c
    · rw [hp]
      exact reads_quoted_plain hq hb hc ih
    · rw [hp]
      exact reads_quoted_escape (hcode rules _) ih

end Quoted

theorem quote_append (s rest : List Char) :
    quote s ++ rest = '"' :: (s.flatMap printChar ++ '"' :: rest) := by
  simp [quote]

end CloudLookup.Json
