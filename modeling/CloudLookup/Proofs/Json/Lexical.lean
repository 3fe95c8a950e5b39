import CloudLookup.Proofs.Except
import CloudLookup.Proofs.Json.Quoted

/-! The forms of blanks, quoted texts and numbers in a JSON text. Each reader takes what has its
form from the front of a text, and refuses a text that does not start so. -/
namespace CloudLookup.Json

open Text (Taken Rest)

variable {s t rest : List Char}

section Blanks

def Gap (s rest : List Char) : Prop := ∃ blanks, s = blanks ++ rest ∧ ∀ c ∈ blanks, isBlank c

theorem Gap.refl (s : List Char) : Gap s s := ⟨[], rfl, by simp⟩

theorem Gap.length_le (h : Gap s rest) : rest.length ≤ s.length := by
  obtain ⟨blanks, rfl, -⟩ := h
  simp

theorem gap_skipBlank (s : List Char) : Gap s (skipBlank s) :=
  ⟨s.takeWhile isBlank, List.takeWhile_append_dropWhile.symm,
    List.all_eq_true.mp List.all_takeWhile⟩

theorem Gap.skipBlank_eq (h : Gap s rest) : skipBlank s = skipBlank rest := by
  obtain ⟨blanks, rfl, hb⟩ := h
  exact List.dropWhile_append_of_pos hb

theorem skipBlank_cons {c : Char} (h : isBlank c = false) : skipBlank (c :: s) = c :: s :=
  List.dropWhile_cons_of_neg (by simp [h])

theorem not_blank_of_skipBlank {c : Char} (h : skipBlank s = c :: rest) : isBlank c = false := by
  have first := List.head?_dropWhile_not isBlank s
  rw [← skipBlank, h] at first
  simpa using first

theorem gap_cons_iff {c : Char} (h : isBlank c = false) :
    Gap s (c :: rest) ↔ skipBlank s = c :: rest := by
  constructor
  · intro gap
    rw [gap.skipBlank_eq, skipBlank_cons h]
  · intro skipped
    rw [← skipped]
    exact gap_skipBlank s

theorem gap_nil_iff : Gap s [] ↔ skipBlank s = [] := by
  constructor
  · intro gap
    exact gap.skipBlank_eq
  · intro skipped
    rw [← skipped]
    exact gap_skipBlank s

end Blanks

section Quoted

inductive Hex : List Char → Nat → List Char → Prop where
  | mk {a b c d : Char} {p q r u : Nat} {rest : List Char} (ha : hexValue? a = some p)
    (hb : hexValue? b = some q) (hc : hexValue? c = some r) (hd : hexValue? d = some u) :
    Hex (a :: b :: c :: d :: rest) (((p * 16 + q) * 16 + r) * 16 + u) rest

theorem reads_hex_iff {n : Nat} : Reads readHex s n rest ↔ Hex s n rest := by
  constructor
  · rintro ⟨shorter, h⟩
    unfold readHex at h
    split at h
    · split at h
      · cases h
        constructor <;> assumption
      · contradiction
    · split at h <;> contradiction
  · rintro ⟨ha, hb, hc, hd⟩
    refine ⟨by simp only [List.length_cons]; omega, ?_⟩
    simp only [readHex, ha, hb, hc, hd]

inductive Escape (rules : Rules) : List Char → Char → List Char → Prop where
  | letter {x c : Char} {rest : List Char} (h : escaped? x = some c) :
    Escape rules (x :: rest) c rest
  | point {s rest : List Char} {n : Nat} (h : Hex s n rest)
    (whole : (isLowSurrogate n || isHighSurrogate n) = false) :
    Escape rules ('u' :: s) (Char.ofNat n) rest
  | pair {s t rest : List Char} {high low : Nat} (first : Hex s high ('\\' :: 'u' :: t))
    (hh : isHighSurrogate high) (second : Hex t low rest) (hl : isLowSurrogate low)
    (exact : rules.loneSurrogates = false) :
    Escape rules ('u' :: s)
      (Char.ofNat (0x10000 + (high - 0xD800) * 0x400 + (low - 0xDC00))) rest
  /-- Half of a pair stands for the replacement character, if that is allowed. -/
  | half {s rest : List Char} {n : Nat} (h : Hex s n rest)
    (part : (isLowSurrogate n || isHighSurrogate n) = true) (lone : rules.loneSurrogates = true) :
    Escape rules ('u' :: s) (Char.ofNat 0xFFFD) rest

theorem not_low_of_high {n : Nat} (h : isHighSurrogate n) : isLowSurrogate n = false := by
  simp only [isHighSurrogate, isLowSurrogate, Bool.and_eq_true, decide_eq_true_eq] at *
  simp only [Bool.and_eq_false_iff, decide_eq_false_iff_not]
  omega

theorem reads_lowSurrogate_iff {high : Nat} {c : Char} :
    Reads (readLowSurrogate high) s c rest ↔ ∃ t low, s = '\\' :: 'u' :: t ∧ Hex t low rest ∧
      isLowSurrogate low ∧ c = Char.ofNat (0x10000 + (high - 0xD800) * 0x400 + (low - 0xDC00)) := by
  constructor
  · rintro ⟨shorter, h⟩
    unfold readLowSurrogate at h
    split at h
    · contradiction
    · split at h
      · contradiction
      · rename_i t
        obtain ⟨n, hex, h⟩ := eq_ok_of_bind h
        split at h
        · rename_i half
          simp only [Except.ok.injEq, Taken.mk.injEq] at h
          obtain ⟨hc, rfl⟩ := h
          exact ⟨t, n.value, rfl, reads_hex_iff.mp ⟨n.shorter, hex⟩, half, hc.symm⟩
        · contradiction
      · contradiction
    · contradiction
  · rintro ⟨t, low, rfl, hex, hl, hc⟩
    obtain ⟨shorter, hex⟩ := reads_hex_iff.mpr hex
    refine ⟨by simp only [List.length_cons]; omega, ?_⟩
    simp only [readLowSurrogate, hex, bind, Except.bind, hl, if_true, hc]

theorem reads_escape_iff {rules : Rules} {c : Char} :
    Reads (readEscape rules) s c rest ↔ Escape rules s c rest := by
  constructor
  · rintro ⟨shorter, h⟩
    unfold readEscape at h
    split at h
    · contradiction
    · obtain ⟨e, code, h⟩ := eq_ok_of_map h
      simp only [Taken.within, Taken.mk.injEq] at h
      obtain ⟨rfl, rfl⟩ := h
      obtain ⟨n, hex, h⟩ := eq_ok_of_bind code
      have written := reads_hex_iff.mp ⟨n.shorter, hex⟩
      split at h
      · rename_i part
        split at h
        · rename_i lone
          obtain rfl := Except.ok.inj h
          exact .half written part lone
        · rename_i exact
          split at h
          · contradiction
          · rename_i high
            obtain ⟨u, low, rfl⟩ := eq_ok_of_map h
            obtain ⟨v, second, hv, hs, hl, hc⟩ := reads_lowSurrogate_iff.mp ⟨u.shorter, low⟩
            rw [hv] at written
            change Escape rules _ u.value u.rest
            rw [hc]
            exact .pair written (by simpa [high] using part) hs hl (by simpa using exact)
      · rename_i whole
        obtain rfl := Except.ok.inj h
        exact .point written (by simpa using whole)
    · split at h
      · rename_i letter
        simp only [Except.ok.injEq, Taken.mk.injEq] at h
        obtain ⟨rfl, rfl⟩ := h
        exact .letter letter
      · contradiction
  · intro h
    cases h with
    | letter h =>
      refine ⟨Nat.lt_succ_self _, ?_⟩
      rw [readEscape, h]
      rintro rfl
      contradiction
    | point h whole =>
      obtain ⟨shorter, hex⟩ := reads_hex_iff.mpr h
      refine ⟨Nat.lt_succ_of_lt shorter, ?_⟩
      simp only [readEscape, readCodePoint, hex, bind, Except.bind, whole, Bool.false_eq_true,
        if_false, Except.map, Taken.within]
    | @pair s t _ high low first hh second hl exact =>
      obtain ⟨shorterFirst, hex⟩ := reads_hex_iff.mpr first
      obtain ⟨shorter, low⟩ : Reads (readLowSurrogate high) ('\\' :: 'u' :: t) _ rest :=
        reads_lowSurrogate_iff.mpr ⟨t, low, rfl, second, hl, rfl⟩
      have notLow := not_low_of_high hh
      refine ⟨Nat.lt_succ_of_lt (Nat.lt_trans shorter shorterFirst), ?_⟩
      simp only [readEscape, readCodePoint, hex, bind, Except.bind, hh, notLow, Bool.false_or,
        exact, if_true, Bool.false_eq_true, if_false, low, Except.map, Taken.within]
    | half h part lone =>
      obtain ⟨shorter, hex⟩ := reads_hex_iff.mpr h
      refine ⟨Nat.lt_succ_of_lt shorter, ?_⟩
      simp only [readEscape, readCodePoint, hex, bind, Except.bind, part, lone, if_true, Except.map,
        Taken.within]

inductive Quoted (rules : Rules) : List Char → List Char → List Char → Prop where
  | close {rest : List Char} : Quoted rules ('"' :: rest) [] rest
  | plain {c : Char} {s text rest : List Char} (quote : c ≠ '"') (backslash : c ≠ '\\')
    (control : ¬ c.toNat < 32) (more : Quoted rules s text rest) :
    Quoted rules (c :: s) (c :: text) rest
  | escape {c : Char} {s t text rest : List Char} (code : Escape rules s c t)
    (more : Quoted rules t text rest) : Quoted rules ('\\' :: s) (c :: text) rest

theorem reads_quoted_iff {rules : Rules} {text : List Char} :
    Reads (readQuoted rules) s text rest ↔ Quoted rules s text rest := by
  constructor
  · rintro ⟨shorter, h⟩
    fun_induction readQuoted rules s generalizing text rest with
    | case1 => contradiction
    | case2 => 
      simp only [Except.ok.injEq, Taken.mk.injEq] at h
      obtain ⟨rfl, rfl⟩ := h
      exact .close
    | case3 s ih =>
      obtain ⟨e, code, h⟩ := eq_ok_of_bind h
      obtain ⟨u, more, h⟩ := eq_ok_of_bind h
      simp only [Except.ok.injEq, Taken.mk.injEq] at h
      obtain ⟨rfl, rfl⟩ := h
      exact .escape (reads_escape_iff.mp ⟨e.shorter, code⟩) (ih e u.shorter more)
    | case4 => contradiction
    | case5 c s quote backslash control ih =>
      obtain ⟨u, more, h⟩ := eq_ok_of_bind h
      simp only [Except.ok.injEq, Taken.mk.injEq] at h
      obtain ⟨rfl, rfl⟩ := h
      exact .plain quote backslash control (ih u.shorter more)
  · intro h
    induction h with
    | close => exact ⟨Nat.lt_succ_self _, by rw [readQuoted]⟩
    | plain quote backslash control _ ih => exact reads_quoted_plain quote backslash control ih
    | escape code _ ih => exact reads_quoted_escape (reads_escape_iff.mpr code) ih

end Quoted

section Number

def Ends (kind : Char → Bool) (rest : List Char) : Prop := ∀ c ∈ rest.head?, kind c = false

def Digits (s digits rest : List Char) : Prop :=
  s = digits ++ rest ∧ digits ≠ [] ∧ (∀ c ∈ digits, c.isDigit) ∧ Ends Char.isDigit rest

theorem Digits.head {digits : List Char} (h : Digits s digits rest) :
    ∃ c t, s = c :: t ∧ c.isDigit := by
  obtain ⟨rfl, some_digit, all, -⟩ := h
  obtain ⟨c, t, rfl⟩ := List.exists_cons_of_ne_nil some_digit
  exact ⟨c, t ++ rest, rfl, all c List.mem_cons_self⟩

theorem reads_digits_iff {digits : List Char} :
    Reads readDigits s digits rest ↔ Digits s digits rest := by
  constructor
  · rintro ⟨shorter, h⟩
    cases s with
    | nil => contradiction
    | cons c s =>
      rw [readDigits] at h
      split at h
      · rename_i digit
        simp only [Except.ok.injEq, Taken.mk.injEq] at h
        obtain ⟨rfl, rfl⟩ := h
        refine ⟨by simp, by simp, ?_, ?_⟩
        · intro d hd
          obtain rfl | hd := List.mem_cons.mp hd
          · exact digit
          · exact List.all_eq_true.mp List.all_takeWhile d hd
        · intro d hd
          have first := List.head?_dropWhile_not Char.isDigit s
          rw [Option.mem_def.mp hd] at first
          simpa using first
      · contradiction
  · rintro ⟨rfl, some_digit, all, ends⟩
    cases digits with
    | nil => contradiction
    | cons c digits =>
      obtain ⟨digit, all⟩ := List.forall_mem_cons.mp all
      have stop : rest.takeWhile Char.isDigit = [] ∧ rest.dropWhile Char.isDigit = rest := by
        cases rest with
        | nil => simp
        | cons d rest => simp [ends d rfl]
      refine ⟨by simp only [List.length_append, List.length_cons]; omega, ?_⟩
      simp only [List.cons_append, readDigits, digit, if_true, List.takeWhile_append_of_pos all,
        List.dropWhile_append_of_pos all, stop, List.append_nil]

/-- The digits before the point. A zero at the start stands alone. -/
inductive Whole : List Char → List Char → List Char → Prop where
  | zero {rest : List Char} (ends : Ends Char.isDigit rest) : Whole ('0' :: rest) ['0'] rest
  | digits {c : Char} {s digits rest : List Char} (first : c ≠ '0')
    (h : Digits (c :: s) digits rest) : Whole (c :: s) digits rest

theorem reads_whole_iff {digits : List Char} :
    Reads readWholePart s digits rest ↔ Whole s digits rest := by
  constructor
  · rintro ⟨shorter, h⟩
    unfold readWholePart at h
    split at h
    · rename_i d t
      split at h
      · contradiction
      · rename_i digit
        simp only [Except.ok.injEq, Taken.mk.injEq] at h
        obtain ⟨rfl, rfl⟩ := h
        exact .zero (by simpa [Ends] using digit)
    · rename_i other
      obtain ⟨hs, some_digit, all, ends⟩ := reads_digits_iff.mp ⟨shorter, h⟩
      cases digits with
      | nil => contradiction
      | cons c digits =>
        by_cases zero : c = '0'
        · -- Only a zero at the end of the text is read as digits.
          cases more : digits ++ rest with
          | nil =>
            obtain ⟨rfl, rfl⟩ := List.append_eq_nil_iff.mp more
            rw [hs, zero]
            exact .zero ends
          | cons d t => exact absurd (by rw [hs, List.cons_append, more, zero]) (other d t)
        · rw [hs]
          exact .digits zero ⟨rfl, some_digit, all, ends⟩
  · intro h
    cases h with
    | zero ends =>
      cases rest with
      | nil => exact ⟨Nat.lt_succ_self _, rfl⟩
      | cons d rest =>
        refine ⟨Nat.lt_succ_self _, ?_⟩
        simp [readWholePart, ends d rfl]
    | digits first h =>
      obtain ⟨shorter, run⟩ := reads_digits_iff.mpr h
      refine ⟨shorter, ?_⟩
      rw [readWholePart]
      · exact run
      · intro d t
        simp [first]

inductive Fraction : List Char → List Char → List Char → Prop where
  | none {rest : List Char} (ends : Ends (· = '.') rest) : Fraction rest [] rest
  | digits {s digits rest : List Char} (h : Digits s digits rest) : Fraction ('.' :: s) digits rest

theorem readFraction_eq_ok_iff {digits : List Char} :
    (∃ shorter, readFraction s = .ok (digits, ⟨rest, shorter⟩)) ↔ Fraction s digits rest := by
  constructor
  · rintro ⟨shorter, h⟩
    unfold readFraction at h
    split at h
    · obtain ⟨t, run, h⟩ := eq_ok_of_map h
      simp only [Taken.left, Rest.cons, Prod.mk.injEq, Subtype.mk.injEq] at h
      obtain ⟨rfl, rfl⟩ := h
      exact .digits (reads_digits_iff.mp ⟨t.shorter, run⟩)
    · rename_i other
      simp only [Rest.all, Except.ok.injEq, Prod.mk.injEq, Subtype.mk.injEq] at h
      obtain ⟨rfl, rfl⟩ := h
      apply Fraction.none
      intro c hc
      cases s with
      | nil => contradiction
      | cons d t =>
        obtain rfl := Option.some.inj hc
        simpa using fun point => other t (by rw [point])
  · intro h
    cases h with
    | none ends =>
      refine ⟨Nat.le_refl _, ?_⟩
      unfold readFraction
      split
      · simp [Ends] at ends
      · rfl
    | digits h =>
      obtain ⟨shorter, run⟩ := reads_digits_iff.mpr h
      refine ⟨Nat.le_succ_of_le (Nat.le_of_lt shorter), ?_⟩
      rw [readFraction, run]
      rfl

inductive Exponent : List Char → Bool → List Char → List Char → Prop where
  | none {rest : List Char} (ends : Ends (fun c => c = 'e' || c = 'E') rest) :
    Exponent rest false [] rest
  | unsigned {c : Char} {s digits rest : List Char} (letter : c = 'e' ∨ c = 'E')
    (h : Digits s digits rest) : Exponent (c :: s) false digits rest
  | plus {c : Char} {s digits rest : List Char} (letter : c = 'e' ∨ c = 'E')
    (h : Digits s digits rest) : Exponent (c :: '+' :: s) false digits rest
  | minus {c : Char} {s digits rest : List Char} (letter : c = 'e' ∨ c = 'E')
    (h : Digits s digits rest) : Exponent (c :: '-' :: s) true digits rest

theorem readExponent_eq_ok_iff {negative : Bool} {digits : List Char} :
    (∃ shorter, readExponent s = .ok (negative, digits, ⟨rest, shorter⟩)) ↔
      Exponent s negative digits rest := by
  constructor
  · rintro ⟨shorter, h⟩
    unfold readExponent at h
    split at h
    · rename_i c t
      split at h
      · rename_i letter
        split at h
        all_goals
          obtain ⟨u, run, h⟩ := eq_ok_of_map h
          simp only [Taken.left, Rest.cons, Prod.mk.injEq, Subtype.mk.injEq] at h
          obtain ⟨rfl, rfl, rfl⟩ := h
          have written := reads_digits_iff.mp ⟨u.shorter, run⟩
        · exact .minus letter written
        · exact .plus letter written
        · exact .unsigned letter written
      · rename_i other
        simp only [Rest.all, Except.ok.injEq, Prod.mk.injEq, Subtype.mk.injEq] at h
        obtain ⟨rfl, rfl, rfl⟩ := h
        exact .none (by simpa [Ends] using other)
    · simp only [Rest.all, Except.ok.injEq, Prod.mk.injEq, Subtype.mk.injEq] at h
      obtain ⟨rfl, rfl, rfl⟩ := h
      exact .none (by simp [Ends])
  · intro h
    cases h with
    | none ends =>
      refine ⟨Nat.le_refl _, ?_⟩
      cases s with
      | nil => rfl
      | cons c s =>
        have other : ¬ (c = 'e' ∨ c = 'E') := by simpa [Ends] using ends
        simp only [readExponent, if_neg other]
        rfl
    | unsigned letter h =>
      obtain ⟨shorter, run⟩ := reads_digits_iff.mpr h
      refine ⟨Nat.le_succ_of_le (Nat.le_of_lt shorter), ?_⟩
      obtain ⟨d, t, rfl, digit⟩ := h.head
      rw [readExponent, if_pos letter, run]
      · rfl
      all_goals
        intro _ sign
        cases sign
        exact absurd digit (by decide)
    | plus letter h =>
      obtain ⟨shorter, run⟩ := reads_digits_iff.mpr h
      refine ⟨by simp only [List.length_cons]; omega, ?_⟩
      rw [readExponent, if_pos letter]
      simp only [run]
      rfl
    | minus letter h =>
      obtain ⟨shorter, run⟩ := reads_digits_iff.mpr h
      refine ⟨by simp only [List.length_cons]; omega, ?_⟩
      rw [readExponent, if_pos letter]
      simp only [run]
      rfl

/-- A number after its sign, which counts as zero if it is out of range and that is allowed. -/
inductive Written (rules : Rules) (negative : Bool) : List Char → Number → List Char → Prop where
  | number {s t u rest whole fraction exponent : List Char} {below : Bool} {n : Number}
    (hw : Whole s whole t) (hf : Fraction t fraction u) (he : Exponent u below exponent rest)
    (value : (Numeral.mk negative whole fraction below exponent).value = .ok n) :
    Written rules negative s n rest
  | huge {s t u rest whole fraction exponent : List Char} {below : Bool} {unread : Nat}
    (hw : Whole s whole t) (hf : Fraction t fraction u) (he : Exponent u below exponent rest)
    (value : (Numeral.mk negative whole fraction below exponent).value = .error unread)
    (allowed : rules.hugeNumbers = true) : Written rules negative s (.integer 0) rest

theorem reads_number_iff {rules : Rules} {negative : Bool} {n : Number} :
    Reads (readNumber rules negative) s n rest ↔ Written rules negative s n rest := by
  constructor
  · rintro ⟨shorter, h⟩
    obtain ⟨whole, hw, h⟩ := eq_ok_of_bind h
    obtain ⟨⟨fraction, r, hr⟩, hf, h⟩ := eq_ok_of_bind h
    obtain ⟨⟨below, exponent, u, hu⟩, he, h⟩ := eq_ok_of_bind h
    have written := reads_whole_iff.mp ⟨whole.shorter, hw⟩
    have pointed := readFraction_eq_ok_iff.mp ⟨hr, hf⟩
    have scaled := readExponent_eq_ok_iff.mp ⟨hu, he⟩
    dsimp only at h
    split at h
    · rename_i value
      simp only [Except.ok.injEq, Taken.mk.injEq] at h
      obtain ⟨rfl, rfl⟩ := h
      exact .number written pointed scaled value
    · rename_i value
      split at h
      · rename_i allowed
        simp only [Except.ok.injEq, Taken.mk.injEq] at h
        obtain ⟨rfl, rfl⟩ := h
        exact .huge written pointed scaled value allowed
      · contradiction
  · intro h
    cases h with
    | number hw hf he value =>
      obtain ⟨shorter, hw⟩ := reads_whole_iff.mpr hw
      obtain ⟨hr, hf⟩ := readFraction_eq_ok_iff.mpr hf
      obtain ⟨hu, he⟩ := readExponent_eq_ok_iff.mpr he
      refine ⟨by omega, ?_⟩
      simp only [readNumber, hw, hf, he, bind, Except.bind, value]
    | huge hw hf he value allowed =>
      obtain ⟨shorter, hw⟩ := reads_whole_iff.mpr hw
      obtain ⟨hr, hf⟩ := readFraction_eq_ok_iff.mpr hf
      obtain ⟨hu, he⟩ := readExponent_eq_ok_iff.mpr he
      refine ⟨by omega, ?_⟩
      simp only [readNumber, hw, hf, he, bind, Except.bind, value, allowed, if_true]

end Number

end CloudLookup.Json
