import CloudLookup.Proofs.Json.Lexical

/-! The grammar of JSON texts. A value is read from the texts of the grammar and from no others, and
it is the one that the text denotes. -/
namespace CloudLookup.Json

open Text (Taken Rest)

variable {s t rest : List Char} {rules : Rules}

inductive Scalar (rules : Rules) : List Char → Json → List Char → Prop where
  | null {rest : List Char} : Scalar rules ('n' :: 'u' :: 'l' :: 'l' :: rest) .null rest
  | true {rest : List Char} : Scalar rules ('t' :: 'r' :: 'u' :: 'e' :: rest) (.bool true) rest
  | false {rest : List Char} :
    Scalar rules ('f' :: 'a' :: 'l' :: 's' :: 'e' :: rest) (.bool false) rest
  | string {s text rest : List Char} (h : Quoted rules s text rest) :
    Scalar rules ('"' :: s) (.string (String.ofList text)) rest
  | negative {s rest : List Char} {n : Number} (h : Written rules true s n rest) :
    Scalar rules ('-' :: s) (.number n) rest
  | positive {s rest : List Char} {n : Number} (h : Written rules false s n rest) :
    Scalar rules s (.number n) rest

inductive Listed (close : Char) (part : List Char → α → List Char → Prop) :
    Bool → List Char → List α → List Char → Prop where
  | close {first : Bool} {s rest : List Char} (gap : Gap s (close :: rest)) :
    Listed close part first s [] rest
  | first {s t u rest : List Char} {a : α} {as : List α} (gap : Gap s t) (h : part t a u)
    (more : Listed close part false u as rest) : Listed close part true s (a :: as) rest
  | next {s t u v rest : List Char} {a : α} {as : List α} (comma : Gap s (',' :: t)) (gap : Gap t u)
    (h : part u a v) (more : Listed close part false v as rest) :
    Listed close part false s (a :: as) rest

/-- A member of an object. The form of its value may depend on its name. -/
inductive Member (rules : Rules) (value : String → List Char → α → List Char → Prop) :
    List Char → String × α → List Char → Prop where
  | mk {s t u v rest text : List Char} {a : α} (name : Quoted rules s text t)
    (colon : Gap t (':' :: u)) (gap : Gap u v) (h : value (String.ofList text) v a rest) :
    Member rules value ('"' :: s) (String.ofList text, a) rest

inductive Compound (rules : Rules) (inner : List Char → Json → List Char → Prop) :
    List Char → Json → List Char → Prop where
  | array {s rest : List Char} {items : List Json} (h : Listed ']' inner true s items rest) :
    Compound rules inner ('[' :: s) (.array items) rest
  | object {s rest : List Char} {members : List (String × Json)}
    (h : Listed '\x7d' (Member rules fun _ => inner) true s members rest) :
    Compound rules inner ('\x7b' :: s) (.object (Members.ofList members)) rest

def Value (rules : Rules) : Nat → List Char → Json → List Char → Prop
  | 0 => Scalar rules
  | depth + 1 => fun s value rest =>
    Scalar rules s value rest ∨ Compound rules (Value rules depth) s value rest

section Parts

variable {first : Bool}

/-- The text starts with a character that is no blank and does not close an array. -/
def Opens (s : List Char) : Prop := ∃ c t, s = c :: t ∧ isBlank c = false ∧ c ≠ ']'

theorem nextItem_closed_iff :
    (∃ shorter, nextItem first s = .ok (.closed rest shorter)) ↔ Gap s (']' :: rest) := by
  constructor
  · rintro ⟨shorter, h⟩
    unfold nextItem at h
    dsimp only at h
    split at h
    · contradiction
    · rename_i c r hs
      split at h
      · rename_i hc
        cases h
        rw [← hc, ← hs]
        exact gap_skipBlank s
      · split at h
        · cases h
        · split at h
          · split at h
            · cases h
            · split at h <;> cases h
          · cases h
  · intro gap
    have hs := (gap_cons_iff (by decide)).mp gap
    unfold nextItem
    split
    · rename_i ended
      rw [hs] at ended
      contradiction
    · rename_i c r hc
      rw [hs] at hc
      cases hc
      exact ⟨gap.length_le, rfl⟩

theorem nextItem_first_iff :
    (∃ le, nextItem true s = .ok (.entry t le)) ↔ Gap s t ∧ Opens t := by
  constructor
  · rintro ⟨le, h⟩
    unfold nextItem at h
    dsimp only at h
    split at h
    · contradiction
    · rename_i c r hs
      split at h
      · cases h
      · rename_i open_
        cases h
        rw [← hs]
        refine ⟨gap_skipBlank s, c, r, hs, not_blank_of_skipBlank hs, open_⟩
  · rintro ⟨gap, c, r, rfl, solid, open_⟩
    have hs := (gap_cons_iff solid).mp gap
    unfold nextItem
    split
    · rename_i ended
      rw [hs] at ended
      contradiction
    · rename_i d u hd
      rw [hs] at hd
      cases hd
      simp only [if_neg open_]
      exact ⟨gap.length_le, rfl⟩

theorem nextItem_next_iff :
    (∃ le, nextItem false s = .ok (.entry t le)) ↔
      ∃ u, Gap s (',' :: u) ∧ Gap u t ∧ Opens t := by
  constructor
  · rintro ⟨le, h⟩
    unfold nextItem at h
    dsimp only at h
    split at h
    · contradiction
    · rename_i c r hs
      split at h
      · cases h
      · simp only [Bool.false_eq_true, if_false] at h
        split at h
        · rename_i comma
          split at h
          · contradiction
          · rename_i d u hr
            split at h
            · contradiction
            · rename_i open_
              cases h
              rw [comma] at hs
              refine ⟨r, (gap_cons_iff (by decide)).mpr hs, ?_⟩
              rw [← hr]
              exact ⟨gap_skipBlank r, d, u, hr, not_blank_of_skipBlank hr, open_⟩
        · contradiction
  · rintro ⟨u, comma, gap, c, r, rfl, solid, open_⟩
    have hs := (gap_cons_iff (by decide)).mp comma
    have hu := (gap_cons_iff solid).mp gap
    unfold nextItem
    split
    · rename_i ended
      rw [hs] at ended
      contradiction
    · rename_i d v hd
      rw [hs] at hd
      cases hd
      simp only [Bool.false_eq_true, if_false, if_true, if_neg (show ¬ ',' = ']' by decide)]
      split
      · rename_i ended
        rw [hu] at ended
        contradiction
      · rename_i d v hd
        rw [hu] at hd
        cases hd
        rw [if_neg open_]
        exact ⟨Nat.le_trans gap.length_le (Nat.le_of_lt comma.length_le), rfl⟩

theorem nextMember_closed_iff :
    (∃ shorter, nextMember first s = .ok (.closed rest shorter)) ↔ Gap s ('\x7d' :: rest) := by
  constructor
  · rintro ⟨shorter, h⟩
    unfold nextMember at h
    dsimp only at h
    split at h
    · contradiction
    · rename_i c r hs
      split at h
      · rename_i hc
        cases h
        rw [← hc, ← hs]
        exact gap_skipBlank s
      · split at h
        · split at h <;> cases h
        · split at h
          · split at h
            · cases h
            · split at h
              · cases h
              · split at h <;> cases h
          · cases h
  · intro gap
    have hs := (gap_cons_iff (by decide)).mp gap
    unfold nextMember
    split
    · rename_i ended
      rw [hs] at ended
      contradiction
    · rename_i c r hc
      rw [hs] at hc
      cases hc
      exact ⟨gap.length_le, rfl⟩

theorem nextMember_first_iff :
    (∃ le, nextMember true s = .ok (.entry t le)) ↔ Gap s ('"' :: t) := by
  constructor
  · rintro ⟨le, h⟩
    unfold nextMember at h
    dsimp only at h
    split at h
    · contradiction
    · rename_i c r hs
      split at h
      · cases h
      · simp only [if_true] at h
        split at h
        · rename_i hc
          cases h
          rw [← hc, ← hs]
          exact gap_skipBlank s
        · cases h
  · intro gap
    have hs := (gap_cons_iff (by decide)).mp gap
    unfold nextMember
    split
    · rename_i ended
      rw [hs] at ended
      contradiction
    · rename_i c r hc
      rw [hs] at hc
      cases hc
      exact ⟨Nat.le_of_lt gap.length_le, rfl⟩

theorem nextMember_next_iff :
    (∃ le, nextMember false s = .ok (.entry t le)) ↔
      ∃ u, Gap s (',' :: u) ∧ Gap u ('"' :: t) := by
  constructor
  · rintro ⟨le, h⟩
    unfold nextMember at h
    dsimp only at h
    split at h
    · contradiction
    · rename_i c r hs
      split at h
      · cases h
      · simp only [Bool.false_eq_true, if_false] at h
        split at h
        · rename_i comma
          split at h
          · cases h
          · rename_i d u hr
            split at h
            · rename_i quote
              cases h
              rw [comma] at hs
              rw [quote] at hr
              exact ⟨r, (gap_cons_iff (by decide)).mpr hs, (gap_cons_iff (by decide)).mpr hr⟩
            · split at h <;> cases h
        · cases h
  · rintro ⟨u, comma, gap⟩
    have hs := (gap_cons_iff (by decide)).mp comma
    have hu := (gap_cons_iff (by decide)).mp gap
    unfold nextMember
    split
    · rename_i ended
      rw [hs] at ended
      contradiction
    · rename_i d v hd
      rw [hs] at hd
      cases hd
      simp only [Bool.false_eq_true, if_false, if_true, if_neg (show ¬ ',' = '\x7d' by decide)]
      split
      · rename_i ended
        rw [hu] at ended
        contradiction
      · rename_i d v hd
        rw [hu] at hd
        cases hd
        have shorter := comma.length_le
        have le := gap.length_le
        exact ⟨by simp only [List.length_cons] at *; omega, rfl⟩

theorem readColon_eq_ok_iff : (∃ le, readColon s = .ok ⟨rest, le⟩) ↔ Gap s (':' :: rest) := by
  constructor
  · rintro ⟨le, h⟩
    unfold readColon at h
    dsimp only at h
    split at h
    · contradiction
    · rename_i c r hs
      split at h
      · rename_i hc
        cases h
        rw [← hc, ← hs]
        exact gap_skipBlank s
      · cases h
  · intro gap
    have hs := (gap_cons_iff (by decide)).mp gap
    unfold readColon
    split
    · rename_i ended
      rw [hs] at ended
      contradiction
    · rename_i c r hc
      rw [hs] at hc
      cases hc
      exact ⟨Nat.le_of_lt gap.length_le, rfl⟩

theorem readLetters_eq_ok_iff {letters : List Char} :
    (∃ le, readLetters letters s = .ok ⟨rest, le⟩) ↔ s = letters ++ rest := by
  induction letters generalizing s with
  | nil =>
    simp only [readLetters, Rest.all, Except.ok.injEq, Subtype.mk.injEq, exists_prop,
      List.nil_append, and_iff_right_iff_imp]
    rintro rfl
    exact Nat.le_refl _
  | cons letter letters ih =>
    cases s with
    | nil => simp [readLetters]
    | cons c s =>
      rw [readLetters]
      constructor
      · rintro ⟨le, h⟩
        split at h
        · rename_i hc
          obtain ⟨r, hr, h⟩ := eq_ok_of_map h
          cases h
          rw [hc, List.cons_append, ← ih.mp ⟨r.property, hr⟩]
        · contradiction
      · intro h
        obtain ⟨rfl, hs⟩ := List.cons.inj h
        obtain ⟨le, hr⟩ := ih.mpr hs
        refine ⟨Nat.le_succ_of_le le, ?_⟩
        rw [if_pos rfl, hr]
        rfl

end Parts

/-- The reader takes what has a form, after blanks. -/
def Takes (reader : Reader α) (part : List Char → α → List Char → Prop) : Prop :=
  ∀ s a rest, Reads reader s a rest ↔ ∃ t, Gap s t ∧ part t a rest

section Listed

variable {first : Bool}

theorem Takes.reads_iff {reader : Reader α} {part : List Char → α → List Char → Prop}
    (h : Takes reader part) (opens : ∀ {s a rest}, part s a rest → Opens s) {a : α}
    (opened : Opens s) : Reads reader s a rest ↔ part s a rest := by
  rw [h]
  constructor
  · rintro ⟨t, gap, written⟩
    -- There are no blanks on either side, so nothing is skipped.
    obtain ⟨c, u, rfl, solid, -⟩ := opened
    obtain ⟨d, v, rfl, solid', -⟩ := opens written
    rwa [← skipBlank_cons solid, (gap_cons_iff solid').mp gap]
  · intro written
    exact ⟨s, .refl s, written⟩

theorem reads_items_cons {item : Reader α} {a : α} {as : List α} {u : List Char}
    (next : ∃ le, nextItem first s = .ok (.entry t le)) (ha : Reads item t a u)
    (more : Reads (readItems item false) u as rest) :
    Reads (readItems item first) s (a :: as) rest := by
  obtain ⟨le, next⟩ := next
  obtain ⟨shorterFirst, ha⟩ := ha
  obtain ⟨shorter, more⟩ := more
  refine ⟨by omega, ?_⟩
  rw [readItems, next]
  simp only [ha, bind, Except.bind, more]

theorem reads_items_iff {item : Reader α} {part : List Char → α → List Char → Prop}
    (h : Takes item part) (opens : ∀ {s a rest}, part s a rest → Opens s) {items : List α} :
    Reads (readItems item first) s items rest ↔ Listed ']' part first s items rest := by
  constructor
  · rintro ⟨shorter, read⟩
    fun_induction readItems item first s generalizing items rest with
    | case1 => contradiction
    | case2 first s r lt next =>
      cases read
      exact .close (nextItem_closed_iff.mp ⟨_, next⟩)
    | case3 first s text le next ih =>
      obtain ⟨a, ha, read⟩ := eq_ok_of_bind read
      obtain ⟨as, has, read⟩ := eq_ok_of_bind read
      cases read
      have more := ih a as.shorter has
      cases first with
      | true =>
        obtain ⟨gap, opened⟩ := nextItem_first_iff.mp ⟨_, next⟩
        exact .first gap ((h.reads_iff opens opened).mp ⟨a.shorter, ha⟩) more
      | false =>
        obtain ⟨u, comma, gap, opened⟩ := nextItem_next_iff.mp ⟨_, next⟩
        exact .next comma gap ((h.reads_iff opens opened).mp ⟨a.shorter, ha⟩) more
  · intro listed
    induction listed with
    | close gap =>
      obtain ⟨shorter, next⟩ := nextItem_closed_iff.mpr gap
      refine ⟨shorter, ?_⟩
      rw [readItems, next]
    | first gap written _ ih =>
      have opened := opens written
      exact reads_items_cons (nextItem_first_iff.mpr ⟨gap, opened⟩)
        ((h.reads_iff opens opened).mpr written) ih
    | next comma gap written _ ih =>
      have opened := opens written
      exact reads_items_cons (nextItem_next_iff.mpr ⟨_, comma, gap, opened⟩)
        ((h.reads_iff opens opened).mpr written) ih

theorem reads_members_cons {value : String → Reader α} {text u v : List Char} {a : α}
    {members : List (String × α)} (next : ∃ le, nextMember first s = .ok (.entry t le))
    (name : Reads (readQuoted rules) t text u) (colon : ∃ le, readColon u = .ok ⟨v, le⟩)
    {w : List Char} (ha : Reads (value (String.ofList text)) v a w)
    (more : Reads (readMembers rules value false) w members rest) :
    Reads (readMembers rules value first) s ((String.ofList text, a) :: members) rest := by
  obtain ⟨le, next⟩ := next
  obtain ⟨shorterName, name⟩ := name
  obtain ⟨leColon, colon⟩ := colon
  obtain ⟨shorterFirst, ha⟩ := ha
  obtain ⟨shorter, more⟩ := more
  refine ⟨by omega, ?_⟩
  rw [readMembers, next]
  simp only [name, bind, Except.bind, colon, ha, more]

theorem reads_members_iff {value : String → Reader α}
    {part : String → List Char → α → List Char → Prop}
    (h : ∀ name, Takes (value name) (part name))
    {members : List (String × α)} :
    Reads (readMembers rules value first) s members rest ↔
      Listed '\x7d' (Member rules part) first s members rest := by
  constructor
  · rintro ⟨shorter, read⟩
    fun_induction readMembers rules value first s generalizing members rest with
    | case1 => contradiction
    | case2 first s r lt next =>
      cases read
      exact .close (nextMember_closed_iff.mp ⟨_, next⟩)
    | case3 first s text le next ih =>
      obtain ⟨name, hn, read⟩ := eq_ok_of_bind read
      obtain ⟨⟨r, hr⟩, colon, read⟩ := eq_ok_of_bind read
      obtain ⟨a, ha, read⟩ := eq_ok_of_bind read
      obtain ⟨as, has, read⟩ := eq_ok_of_bind read
      cases read
      have more := ih name r hr a as.shorter has
      obtain ⟨t, gap, written⟩ := (h _ _ _ _).mp ⟨a.shorter, ha⟩
      have quoted := reads_quoted_iff.mp ⟨name.shorter, hn⟩
      have member : Member rules part ('"' :: text) (String.ofList name.value, a.value) a.rest :=
        .mk quoted (readColon_eq_ok_iff.mp ⟨hr, colon⟩) gap written
      cases first with
      | true => exact .first (nextMember_first_iff.mp ⟨_, next⟩) member more
      | false =>
        obtain ⟨u, comma, gap⟩ := nextMember_next_iff.mp ⟨_, next⟩
        exact .next comma gap member more
  · intro listed
    induction listed with
    | close gap =>
      obtain ⟨shorter, next⟩ := nextMember_closed_iff.mpr gap
      refine ⟨shorter, ?_⟩
      rw [readMembers, next]
    | first gap member _ ih =>
      cases member with
      | mk name colon inner written =>
        exact reads_members_cons (nextMember_first_iff.mpr gap) (reads_quoted_iff.mpr name)
          (readColon_eq_ok_iff.mpr colon) ((h _ _ _ _).mpr ⟨_, inner, written⟩) ih
    | next comma gap member _ ih =>
      cases member with
      | mk name colon inner written =>
        exact reads_members_cons (nextMember_next_iff.mpr ⟨_, comma, gap⟩)
          (reads_quoted_iff.mpr name) (readColon_eq_ok_iff.mpr colon)
          ((h _ _ _ _).mpr ⟨_, inner, written⟩) ih

end Listed

section Value

theorem Written.head {negative : Bool} {n : Number} (h : Written rules negative s n rest) :
    ∃ c t, s = c :: t ∧ c.isDigit := by
  have head {digits t : List Char} (hw : Whole s digits t) : ∃ c t, s = c :: t ∧ c.isDigit := by
    cases hw with
    | zero ends => exact ⟨'0', t, rfl, rfl⟩
    | digits first run => exact run.head
  cases h with
  | number hw => exact head hw
  | huge hw => exact head hw

theorem not_blank_of_isDigit {c : Char} (h : c.isDigit) : isBlank c = false := by
  rw [Bool.eq_false_iff]
  intro blank
  simp only [isBlank, Bool.or_eq_true, decide_eq_true_eq] at blank
  obtain ((rfl | rfl) | rfl) | rfl := blank <;> contradiction

theorem Scalar.opens {v : Json} (h : Scalar rules s v rest) : Opens s := by
  cases h with
  | positive h =>
    obtain ⟨c, t, rfl, digit⟩ := h.head
    refine ⟨c, t, rfl, not_blank_of_isDigit digit, ?_⟩
    rintro rfl
    contradiction
  | _ => exact ⟨_, _, rfl, by decide, by decide⟩

theorem Compound.opens {inner : List Char → Json → List Char → Prop} {v : Json}
    (h : Compound rules inner s v rest) : Opens s := by
  cases h
  all_goals exact ⟨_, _, rfl, by decide, by decide⟩

theorem Value.opens {depth : Nat} {v : Json} (h : Value rules depth s v rest) : Opens s := by
  cases depth with
  | zero => exact Scalar.opens h
  | succ depth =>
    obtain h | h := h
    · exact h.opens
    · exact h.opens

section First

variable {c : Char} {r : List Char} {v : Json}

theorem map_letters_eq_ok_iff {letters : List Char} {value : Json} (lt : r.length < s.length) :
    (∃ shorter, (readLetters letters r).map (fun u : Rest r =>
      (⟨value, u.1, Nat.lt_of_le_of_lt u.2 lt⟩ : Taken Json s)) = .ok ⟨v, rest, shorter⟩) ↔
        r = letters ++ rest ∧ v = value := by
  rw [← readLetters_eq_ok_iff]
  constructor
  · rintro ⟨shorter, h⟩
    obtain ⟨⟨u, le⟩, letters, h⟩ := eq_ok_of_map h
    cases h
    exact ⟨⟨le, letters⟩, rfl⟩
  · rintro ⟨⟨le, letters⟩, rfl⟩
    refine ⟨Nat.lt_of_le_of_lt le lt, ?_⟩
    rw [letters]
    rfl

theorem map_within_eq_ok_iff {reader : Reader α} {value : α → Json} (le : r.length ≤ s.length) :
    (∃ shorter, (reader r).map (fun t => (t.map value).within le) = .ok ⟨v, rest, shorter⟩) ↔
      ∃ a, Reads reader r a rest ∧ v = value a := by
  constructor
  · rintro ⟨shorter, h⟩
    obtain ⟨t, read, h⟩ := eq_ok_of_map h
    cases h
    exact ⟨t.value, ⟨t.shorter, read⟩, rfl⟩
  · rintro ⟨a, ⟨shorter, read⟩, rfl⟩
    refine ⟨Nat.lt_of_lt_of_le shorter le, ?_⟩
    rw [read]
    rfl

theorem exists_ite_iff {p q : Prop} [Decidable p] {result : q → α} {a b : α} {r r' : Prop}
    (pos : p → ((∃ h, a = result h) ↔ r)) (neg : ¬ p → ((∃ h, b = result h) ↔ r')) :
    (∃ h, (if p then a else b) = result h) ↔ if p then r else r' := by
  split
  · exact pos ‹p›
  · exact neg ‹¬ p›

theorem reads_valueWith_iff {inner : Option (Reader Json)} (hs : skipBlank s = c :: r) :
    Reads (readValueWith rules inner) s v rest ↔
      if c = 'n' then r = ['u', 'l', 'l'] ++ rest ∧ v = .null
      else if c = 't' then r = ['r', 'u', 'e'] ++ rest ∧ v = .bool true
      else if c = 'f' then r = ['a', 'l', 's', 'e'] ++ rest ∧ v = .bool false
      else if c = '"' then
        ∃ text, Reads (readQuoted rules) r text rest ∧ v = .string (String.ofList text)
      else if c = '-' then ∃ n, Reads (readNumber rules true) r n rest ∧ v = .number n
      else if c.isDigit then ∃ n, Reads (readNumber rules false) (c :: r) n rest ∧ v = .number n
      else if c = '[' then
        ∃ read ∈ inner, ∃ items, Reads (readItems read true) r items rest ∧ v = .array items
      else if c = '\x7b' then
        ∃ read ∈ inner, ∃ members, Reads (readMembers rules (fun _ => read) true) r members rest ∧
          v = .object (Members.ofList members)
      else False := by
  unfold Reads readValueWith
  split
  · rename_i ended
    rw [hs] at ended
    contradiction
  rename_i c' r' hc
  rw [hs] at hc
  cases hc
  have le : (c :: r).length ≤ s.length :=
    ((gap_cons_iff (not_blank_of_skipBlank hs)).mpr hs).length_le
  have lt : r.length < s.length := le
  refine exists_ite_iff (fun _ => map_letters_eq_ok_iff lt) fun _ => ?_
  refine exists_ite_iff (fun _ => map_letters_eq_ok_iff lt) fun _ => ?_
  refine exists_ite_iff (fun _ => map_letters_eq_ok_iff lt) fun _ => ?_
  refine exists_ite_iff (fun _ => map_within_eq_ok_iff (Nat.le_of_lt lt)) fun _ => ?_
  refine exists_ite_iff (fun _ => map_within_eq_ok_iff (Nat.le_of_lt lt)) fun _ => ?_
  refine exists_ite_iff (fun _ => map_within_eq_ok_iff le) fun _ => ?_
  cases inner with
  | none => by_cases bracket : c = '[' ∨ c = '\x7b' <;> simp [bracket]
  | some read =>
    simp only [Option.mem_def, Option.some.injEq, exists_eq_left']
    by_cases array : c = '['
    · simp only [array, true_or, if_true]
      exact map_within_eq_ok_iff (Nat.le_of_lt lt)
    by_cases object : c = '\x7b'
    · simp only [object, or_true, if_true]
      exact map_within_eq_ok_iff (Nat.le_of_lt lt)
    · simp [array, object]

end First

section Level

variable {inner : Option (Reader Json)} {part : List Char → Json → List Char → Prop}
  (parts : ∀ reader ∈ inner, Takes reader part)
  (opens : ∀ {s a rest}, part s a rest → Opens s)
include parts opens

theorem written_of_reads {c : Char} {r : List Char} {v : Json} (hs : skipBlank s = c :: r)
    (read : Reads (readValueWith rules inner) s v rest) :
    Scalar rules (c :: r) v rest ∨ inner.isSome ∧ Compound rules part (c :: r) v rest := by
  have read := (reads_valueWith_iff hs).mp read
  split at read
  · subst c
    obtain ⟨rfl, rfl⟩ := read
    exact .inl .null
  split at read
  · subst c
    obtain ⟨rfl, rfl⟩ := read
    exact .inl .true
  split at read
  · subst c
    obtain ⟨rfl, rfl⟩ := read
    exact .inl .false
  split at read
  · subst c
    obtain ⟨text, quoted, rfl⟩ := read
    exact .inl (.string (reads_quoted_iff.mp quoted))
  split at read
  · subst c
    obtain ⟨n, number, rfl⟩ := read
    exact .inl (.negative (reads_number_iff.mp number))
  split at read
  · obtain ⟨n, number, rfl⟩ := read
    exact .inl (.positive (reads_number_iff.mp number))
  split at read
  · subst c
    obtain ⟨reader, nested, items, listed, rfl⟩ := read
    have reads := parts reader nested
    exact .inr ⟨Option.isSome_of_mem nested, .array ((reads_items_iff reads opens).mp listed)⟩
  split at read
  · subst c
    obtain ⟨reader, nested, members, listed, rfl⟩ := read
    have reads (_ : String) := parts reader nested
    exact .inr ⟨Option.isSome_of_mem nested, .object ((reads_members_iff reads).mp listed)⟩
  · contradiction

theorem reads_of_written {t : List Char} {v : Json} (gap : Gap s t)
    (written : Scalar rules t v rest ∨ inner.isSome ∧ Compound rules part t v rest) :
    Reads (readValueWith rules inner) s v rest := by
  have opened : Opens t := by
    obtain h | ⟨-, h⟩ := written
    · exact h.opens
    · exact h.opens
  obtain ⟨c, r, rfl, solid, -⟩ := opened
  refine (reads_valueWith_iff ((gap_cons_iff solid).mp gap)).mpr ?_
  obtain h | ⟨nests, h⟩ := written
  · cases h with
    | null => exact ⟨rfl, rfl⟩
    | true => exact ⟨rfl, rfl⟩
    | false => exact ⟨rfl, rfl⟩
    | string h => exact ⟨_, reads_quoted_iff.mpr h, rfl⟩
    | negative h => exact ⟨_, reads_number_iff.mpr h, rfl⟩
    | positive h =>
      obtain ⟨d, u, he, digit⟩ := h.head
      obtain ⟨rfl, rfl⟩ := List.cons.inj he
      have other {d : Char} (h : d.isDigit = false) : c ≠ d := by
        rintro rfl
        rw [digit] at h
        contradiction
      rw [if_neg (other rfl), if_neg (other rfl), if_neg (other rfl), if_neg (other rfl),
        if_neg (other rfl), if_pos digit]
      exact ⟨_, reads_number_iff.mpr h, rfl⟩
  · obtain ⟨reader, nested⟩ := Option.isSome_iff_exists.mp nests
    have reads := parts reader nested
    cases h with
    | array h => exact ⟨reader, nested, _, (reads_items_iff reads opens).mpr h, rfl⟩
    | object h => exact ⟨reader, nested, _, (reads_members_iff fun _ => reads).mpr h, rfl⟩

/-- A value is read after blanks. Without a reader for their parts no array and no object is. -/
theorem takes_valueWith (rules : Rules) :
    Takes (readValueWith rules inner) fun s v rest =>
      Scalar rules s v rest ∨ inner.isSome ∧ Compound rules part s v rest := by
  intro s v rest
  constructor
  · intro read
    cases hs : skipBlank s with
    | nil =>
      obtain ⟨shorter, read⟩ := read
      unfold readValueWith at read
      split at read
      · contradiction
      · rename_i more
        rw [hs] at more
        contradiction
    | cons c r => exact ⟨c :: r, hs ▸ gap_skipBlank s, written_of_reads parts opens hs read⟩
  · rintro ⟨t, gap, written⟩
    exact reads_of_written parts opens gap written

end Level

theorem takes_value (rules : Rules) (depth : Nat) :
    Takes (readValue rules depth) (Value rules depth) := by
  induction depth with
  | zero =>
    have none : ∀ reader ∈ (none : Option (Reader Json)), Takes reader (Scalar rules) := by simp
    simpa [readValue, Value] using takes_valueWith none Scalar.opens rules
  | succ depth ih =>
    have parts : ∀ reader ∈ some (readValue rules depth), Takes reader (Value rules depth) := by
      simpa using ih
    simpa [readValue, Value] using takes_valueWith parts Value.opens rules

theorem readAll_eq_ok_iff {reader : Reader α} {a : α} :
    readAll reader s = .ok a ↔ ∃ rest, Reads reader s a rest ∧ Gap rest [] := by
  constructor
  · intro h
    obtain ⟨t, read, h⟩ := eq_ok_of_bind h
    split at h
    · rename_i blank
      cases h
      exact ⟨t.rest, ⟨t.shorter, read⟩, gap_nil_iff.mpr blank⟩
    · contradiction
  · rintro ⟨rest, ⟨shorter, read⟩, gap⟩
    simp only [readAll, read, bind, Except.bind, gap_nil_iff.mp gap]

end Value

section Depth

theorem Value.shorter {depth : Nat} {v : Json} (h : Value rules depth s v rest) :
    rest.length < s.length :=
  ((takes_value rules depth s v rest).mpr ⟨s, .refl s, h⟩).1

theorem Member.shorter {value : String → List Char → α → List Char → Prop} {m : String × α}
    (shrinks : ∀ {name s a rest}, value name s a rest → rest.length < s.length)
    (h : Member rules value s m rest) : rest.length < s.length := by
  cases h with
  | mk name colon gap h =>
    obtain ⟨shorterName, -⟩ := reads_quoted_iff.mpr name
    have leColon := colon.length_le
    have leGap := gap.length_le
    have shorter := shrinks h
    simp only [List.length_cons] at *
    omega

theorem Listed.imp {part part' : List Char → α → List Char → Prop} {close : Char} {first : Bool}
    {n : Nat} {as : List α} (shrinks : ∀ {s a rest}, part s a rest → rest.length < s.length)
    (h : ∀ {s a rest}, a ∈ as → s.length ≤ n → part s a rest → part' s a rest)
    (listed : Listed close part first s as rest) (le : s.length ≤ n) :
    Listed close part' first s as rest := by
  induction listed with
  | close gap => exact .close gap
  | first gap written _ ih =>
    have leGap := gap.length_le
    have shorter := shrinks written
    have more := ih (fun mem => h (List.mem_cons_of_mem _ mem)) (by omega)
    exact .first gap (h List.mem_cons_self (by omega) written) more
  | next comma gap written _ ih =>
    have leComma := comma.length_le
    have leGap := gap.length_le
    have shorter := shrinks written
    simp only [List.length_cons] at leComma
    have more := ih (fun mem => h (List.mem_cons_of_mem _ mem)) (by omega)
    exact .next comma gap (h List.mem_cons_self (by omega) written) more

theorem Member.imp {value value' : String → List Char → α → List Char → Prop} {m : String × α}
    {n : Nat} (h : ∀ {s rest}, s.length ≤ n → value m.1 s m.2 rest → value' m.1 s m.2 rest)
    (member : Member rules value s m rest) (le : s.length ≤ n) : Member rules value' s m rest := by
  cases member with
  | mk name colon gap written =>
    obtain ⟨shorterName, -⟩ := reads_quoted_iff.mpr name
    have leColon := colon.length_le
    have leGap := gap.length_le
    simp only [List.length_cons] at *
    exact .mk name colon gap (h (by omega) written)

theorem Listed.imp_members {value value' : String → List Char → α → List Char → Prop}
    {close : Char} {first : Bool} {n : Nat} {members : List (String × α)}
    (shrinks : ∀ {name s a rest}, value name s a rest → rest.length < s.length)
    (h : ∀ m ∈ members, ∀ {s rest}, s.length ≤ n → value m.1 s m.2 rest → value' m.1 s m.2 rest)
    (listed : Listed close (Member rules value) first s members rest) (le : s.length ≤ n) :
    Listed close (Member rules value') first s members rest := by
  apply listed.imp (Member.shorter shrinks) ?_ le
  intro _ m _ mem le member
  exact member.imp (h m mem) le

theorem Value.of_length_le {depth bound : Nat} {v : Json} (h : Value rules depth s v rest)
    (le : s.length ≤ bound) : Value rules bound s v rest := by
  induction depth generalizing bound s v rest with
  | zero =>
    cases bound with
    | zero => exact h
    | succ bound => exact .inl h
  | succ depth ih =>
    cases bound with
    | zero =>
      have shorter := h.shorter
      omega
    | succ bound =>
      obtain h | h := h
      · exact .inl h
      · right
        cases h with
        | array h =>
          exact .array (h.imp Value.shorter (fun _ le h => ih h le) (Nat.le_of_succ_le_succ le))
        | object h =>
          exact .object (h.imp_members Value.shorter (fun _ _ _ _ le h => ih h le)
            (Nat.le_of_succ_le_succ le))

end Depth

end CloudLookup.Json
