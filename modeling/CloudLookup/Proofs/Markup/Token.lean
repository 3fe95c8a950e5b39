import CloudLookup.Proofs.Markup.Reading

/-! Tokens and what follows them. A token is read alike whatever follows it; only a text goes on up
to the next tag. A tag ends at the first `>` that stands in no quotes. -/
namespace CloudLookup.Markup

section Cutting

variable {quote : Option Char} {depth : Nat} {s tag content rest : List Char}

/-- The quote that is open after a text, if one may be open before it. There is no answer when a `>`
stands outside quotes. -/
def quoteAfter? (quote : Option Char) : List Char → Option (Option Char)
  | [] => some quote
  | c :: s =>
    match quote with
    | some q => quoteAfter? (if c = q then none else some q) s
    | none => if c = '>' then none else quoteAfter? (if c = '"' ∨ c = '\'' then some c else none) s

theorem quoteAfter?_append (quote : Option Char) (s t : List Char) :
    quoteAfter? quote (s ++ t) = (quoteAfter? quote s).bind (quoteAfter? · t) := by
  induction s generalizing quote with
  | nil => rfl
  | cons c s ih =>
    cases quote with
    | some q => exact ih _
    | none =>
      simp only [List.cons_append, quoteAfter?]
      split
      · rfl
      · exact ih _

theorem splitTag?_of_quoteAfter? (h : quoteAfter? quote tag = some none) (rest : List Char) :
    splitTag? quote (tag ++ '>' :: rest) = some (tag, rest) := by
  induction tag generalizing quote with
  | nil =>
    obtain rfl := Option.some.inj h
    rfl
  | cons c tag ih =>
    cases quote with
    | some q => simp [splitTag?, ih h]
    | none =>
      simp only [quoteAfter?] at h
      split at h
      · contradiction
      · simp [splitTag?, *]

theorem quoteAfter?_of_splitTag? (h : splitTag? quote s = some (tag, rest)) :
    s = tag ++ '>' :: rest ∧ quoteAfter? quote tag = some none := by
  induction s generalizing quote tag with
  | nil => contradiction
  | cons c s ih =>
    cases quote with
    | some q =>
      obtain ⟨⟨t, r⟩, ht, he⟩ := Option.map_eq_some_iff.mp h
      obtain ⟨rfl, rfl⟩ := Prod.mk.inj he
      obtain ⟨rfl, closed⟩ := ih ht
      exact ⟨rfl, closed⟩
    | none =>
      simp only [splitTag?] at h
      split at h
      · rename_i hc
        obtain ⟨rfl, rfl⟩ := Prod.mk.inj (Option.some.inj h)
        exact ⟨by rw [hc, List.nil_append], rfl⟩
      · rename_i hc
        obtain ⟨⟨t, r⟩, ht, he⟩ := Option.map_eq_some_iff.mp h
        obtain ⟨rfl, rfl⟩ := Prod.mk.inj he
        obtain ⟨rfl, closed⟩ := ih ht
        exact ⟨rfl, by simp only [quoteAfter?, if_neg hc, closed]⟩

theorem splitBalanced?_replace (h : splitBalanced? depth s = some (content, rest)) :
    s = content ++ '>' :: rest ∧
      ∀ other, splitBalanced? depth (content ++ '>' :: other) = some (content, other) := by
  induction s generalizing depth content with
  | nil => contradiction
  | cons c s ih =>
    simp only [splitBalanced?] at h
    split at h
    · rename_i hc
      obtain ⟨rfl, rfl⟩ := Prod.mk.inj (Option.some.inj h)
      exact ⟨by rw [hc.1, List.nil_append], fun other => by simp [splitBalanced?, hc.2]⟩
    · rename_i hc
      obtain ⟨⟨t, r⟩, ht, he⟩ := Option.map_eq_some_iff.mp h
      obtain ⟨rfl, rfl⟩ := Prod.mk.inj he
      obtain ⟨rfl, replaced⟩ := ih ht
      refine ⟨rfl, fun other => ?_⟩
      rw [List.cons_append, splitBalanced?, if_neg hc]
      dsimp only
      rw [replaced]
      rfl

end Cutting

namespace Token

def IsTag : Token → Prop
  | opening _ | empty _ | closing _ => True
  | text _ | characterData _ | aside => False

def IsOther : Token → Prop
  | characterData _ | aside => True
  | opening _ | empty _ | closing _ | text _ => False

end Token

theorem isTag_ofTag (content : List Char) : (ofTag content).IsTag := by
  unfold ofTag
  split
  · trivial
  · split <;> trivial

section Others

def ReadsOther (read : List Char → Reading) : Prop :=
  ∀ ⦃s token rest⦄, read s = .ok (token, rest) → token.IsOther ∧
    ∃ taken, s = taken ++ rest ∧ ∀ other, read (taken ++ other) = .ok (token, other)

theorem readsOther_comment : ReadsOther readComment := by
  intro s token rest h
  unfold readComment at h
  split at h
  · contradiction
  · rename_i c s
    split at h
    · contradiction
    · rename_i before after hs
      split at h
      · rename_i hc
        obtain ⟨rfl, rfl⟩ := Prod.mk.inj (Except.ok.inj h)
        refine ⟨trivial, c :: (before ++ ['-', '-', '>']), ?_, fun other => ?_⟩
        · simp [Text.eq_append_of_splitAt? hs]
        · rw [List.cons_append, List.append_assoc]
          simp only [readComment]
          rw [Text.splitAt?_replace hs]
          exact if_pos hc
      · contradiction

theorem readsOther_characterData : ReadsOther readCharacterData := by
  intro s token rest h
  unfold readCharacterData at h
  split at h
  · contradiction
  · rename_i content after hs
    split at h
    · rename_i data hd
      obtain ⟨rfl, rfl⟩ := Prod.mk.inj (Except.ok.inj h)
      refine ⟨trivial, content ++ [']', ']', '>'], ?_, fun other => ?_⟩
      · rw [Text.eq_append_of_splitAt? hs, List.append_assoc]
      · rw [List.append_assoc, readCharacterData, Text.splitAt?_replace hs]
        dsimp only
        rw [hd]
    · contradiction

theorem readsOther_doctype : ReadsOther readDoctype := by
  intro s token rest h
  unfold readDoctype at h
  split at h
  · contradiction
  · rename_i content after hs
    obtain ⟨rfl, replaced⟩ := splitBalanced?_replace hs
    split at h
    · rename_i named
      split at h
      · contradiction
      · rename_i present
        obtain ⟨rfl, rfl⟩ := Prod.mk.inj (Except.ok.inj h)
        refine ⟨trivial, content ++ ['>'], by simp, fun other => ?_⟩
        rw [List.append_assoc, List.singleton_append, readDoctype, replaced]
        dsimp only
        rw [if_pos named, if_neg present]
    · contradiction

theorem readsOther_instruction : ReadsOther readInstruction := by
  intro s token rest h
  unfold readInstruction at h
  split at h
  · contradiction
  · rename_i s empty
    split at h
    · contradiction
    · rename_i content after hs
      obtain ⟨rfl, rfl⟩ := Prod.mk.inj (Except.ok.inj h)
      have parts := Text.eq_append_of_splitAt? hs
      refine ⟨trivial, content ++ ['?', '>'], by rw [parts, List.append_assoc], fun other => ?_⟩
      have replaced := Text.splitAt?_replace hs other
      rw [List.append_assoc]
      unfold readInstruction
      split
      · rename_i first
        -- The text that was read would start with the `>` that it does not start with.
        cases content with
        | nil => cases first
        | cons c content =>
          exact absurd (parts.trans (by rw [(List.cons.inj first).1]; rfl)) (empty _)
      · rw [replaced]

end Others

section Tags

variable {s rest content : List Char} {token : Token}

theorem closed_of_readTag (h : readTag s = .ok (token, rest)) :
    ∃ content, s = content ++ '>' :: rest ∧ quoteAfter? none content = some none ∧
      token = ofTag content := by
  unfold readTag at h
  split at h
  · contradiction
  · rename_i content after hs
    obtain ⟨hs, closed⟩ := quoteAfter?_of_splitTag? hs
    obtain ⟨rfl, rfl⟩ := Prod.mk.inj (Except.ok.inj h)
    exact ⟨content, hs, closed, rfl⟩

/-- What stands in a tag. No quote is open at its end. -/
structure InTag (content : List Char) : Prop where
  closed : quoteAfter? none content = some none
  head : ∀ c ∈ content.head?, c ≠ '!' ∧ c ≠ '?'

theorem InTag.readMarkup (h : InTag content) (rest : List Char) :
    readMarkup (content ++ '>' :: rest) = .ok (ofTag content, rest) := by
  have tag : readTag (content ++ '>' :: rest) = .ok (ofTag content, rest) := by
    rw [readTag, splitTag?_of_quoteAfter? h.closed]
  rw [← tag]
  cases content with
  | nil => exact readMarkup_eq_readTag _ (by decide) (by decide)
  | cons c s =>
    obtain ⟨he, hq⟩ := h.head c rfl
    exact readMarkup_eq_readTag _ he hq

theorem readMarkup_cases (h : readMarkup s = .ok (token, rest)) :
    (∃ content, s = content ++ '>' :: rest ∧ InTag content ∧ token = ofTag content) ∨
      token.IsOther ∧
        ∃ taken, s = taken ++ rest ∧ ∀ other, readMarkup (taken ++ other) = .ok (token, other) := by
  have within {read : List Char → Reading} (other : ReadsOther read) (start : List Char)
      {t : List Char} (hr : read t = .ok (token, rest))
      (same : ∀ t, readMarkup (start ++ t) = read t) :
      token.IsOther ∧ ∃ taken, start ++ t = taken ++ rest ∧
        ∀ other, readMarkup (taken ++ other) = .ok (token, other) := by
    obtain ⟨kind, taken, rfl, ht⟩ := other hr
    refine ⟨kind, start ++ taken, (List.append_assoc ..).symm, fun after => ?_⟩
    rw [List.append_assoc, same, ht]
  unfold readMarkup at h
  split at h
  · exact .inr (within readsOther_comment ['!', '-'] h fun _ => rfl)
  · exact .inr (within readsOther_characterData ['!', '['] h fun _ => rfl)
  · exact .inr (within readsOther_doctype ['!', 'D'] h fun _ => rfl)
  · exact .inr (within readsOther_doctype ['!', 'd'] h fun _ => rfl)
  · contradiction
  · exact .inr (within readsOther_instruction ['?'] h fun _ => rfl)
  · rename_i mark question
    obtain ⟨content, rfl, closed, rfl⟩ := closed_of_readTag h
    refine .inl ⟨content, rfl, ⟨closed, fun c hc => ⟨?_, ?_⟩⟩, rfl⟩
    all_goals
      rintro rfl
      obtain ⟨s, rfl⟩ := List.head?_eq_some_iff.mp hc
    · exact mark _ rfl
    · exact question _ rfl

theorem readMarkup_ne_text (h : readMarkup s = .ok (token, rest)) (raw : List Char) :
    token ≠ .text raw := by
  rintro rfl
  obtain ⟨content, -, -, ht⟩ | ⟨other, -⟩ := readMarkup_cases h
  · have tag := isTag_ofTag content
    rwa [← ht] at tag
  · exact other

theorem readMarkup_replace (h : readMarkup s = .ok (token, rest)) :
    ∃ taken, s = taken ++ rest ∧ ∀ other, readMarkup (taken ++ other) = .ok (token, other) := by
  obtain ⟨content, rfl, tag, rfl⟩ | ⟨-, other⟩ := readMarkup_cases h
  · refine ⟨content ++ ['>'], by simp, fun other => ?_⟩
    rw [List.append_assoc]
    exact tag.readMarkup other
  · exact other

end Tags

section Front

variable {s part text rest other : List Char} {token : Token} {c : Char}

theorem nextToken_of_markup (h : s.dropWhile isBlank = '<' :: text) :
    nextToken s = some (readMarkup text) := by
  rw [nextToken, h]
  rfl

theorem nextToken_of_text (h : s.dropWhile isBlank = c :: text) (hc : c ≠ '<') :
    nextToken s = some (.ok (.text (trimEnd ((c :: text).takeWhile (· ≠ '<'))),
      (c :: text).dropWhile (· ≠ '<'))) := by
  unfold nextToken
  rw [h]
  split
  · contradiction
  · rename_i first
    exact absurd (List.cons.inj first).1 hc
  · rfl

theorem nextToken_append_blanks {blanks : List Char} (h : ∀ c ∈ blanks, isBlank c)
    (s : List Char) : nextToken (blanks ++ s) = nextToken s := by
  rw [nextToken, List.dropWhile_append_of_pos h, nextToken]

theorem trimEnd_append_blanks {blanks : List Char} (h : ∀ c ∈ blanks, isBlank c)
    (s : List Char) : trimEnd (s ++ blanks) = trimEnd s := by
  have reversed : ∀ c ∈ blanks.reverse, isBlank c := fun c hc => h c (List.mem_reverse.mp hc)
  rw [trimEnd, List.reverse_append, List.dropWhile_append_of_pos reversed, trimEnd]

theorem head_of_dropWhile {p : Char → Bool} (h : s.dropWhile p = c :: text) : p c = false := by
  simpa [h] using List.head?_dropWhile_not p s

inductive Taken (rest : List Char) : List Char → Token → Prop where
  | markup {taken : List Char} {token : Token}
    (read : ∀ other, readMarkup (taken ++ other) = .ok (token, other)) :
    Taken rest ('<' :: taken) token
  | text {c : Char} {word : List Char} (solid : isBlank c = false) (plain : '<' ∉ c :: word)
    (ended : rest = [] ∨ ∃ t, rest = '<' :: t) :
    Taken rest (c :: word) (.text (trimEnd (c :: word)))

theorem taken_of_nextToken (h : nextToken s = some (.ok (token, rest))) :
    ∃ blanks taken, (∀ c ∈ blanks, isBlank c) ∧ s = blanks ++ (taken ++ rest) ∧
      Taken rest taken token := by
  have parts : s = s.takeWhile isBlank ++ s.dropWhile isBlank :=
    List.takeWhile_append_dropWhile.symm
  cases front : s.dropWhile isBlank with
  | nil =>
    rw [nextToken, front] at h
    contradiction
  | cons c text =>
    rw [front] at parts
    have blank : ∀ c ∈ s.takeWhile isBlank, isBlank c := fun c hc => List.mem_takeWhile_imp hc
    by_cases hc : c = '<'
    · subst hc
      rw [nextToken_of_markup front] at h
      obtain ⟨taken, rfl, read⟩ := readMarkup_replace (Option.some.inj h)
      exact ⟨_, _, blank, parts, .markup read⟩
    · rw [nextToken_of_text front hc] at h
      obtain ⟨rfl, rfl⟩ := Prod.mk.inj (Except.ok.inj (Option.some.inj h))
      have split : c :: text = (c :: text).takeWhile (· ≠ '<') ++ (c :: text).dropWhile (· ≠ '<') :=
        List.takeWhile_append_dropWhile.symm
      refine ⟨_, (c :: text).takeWhile (· ≠ '<'), blank, by rw [← split]; exact parts, ?_⟩
      have first : (c :: text).takeWhile (· ≠ '<') = c :: text.takeWhile (· ≠ '<') :=
        List.takeWhile_cons_of_pos (by simpa using hc)
      rw [first]
      refine .text (head_of_dropWhile front) ?_ ?_
      · rw [← first]
        intro hm
        simpa using List.mem_takeWhile_imp hm
      · cases ended : (c :: text).dropWhile (· ≠ '<') with
        | nil => exact .inl rfl
        | cons d t =>
          have hd := head_of_dropWhile ended
          exact .inr ⟨t, by simpa using hd⟩

theorem suffix_of_nextToken (h : nextToken s = some (.ok (token, rest))) : rest <:+ s := by
  obtain ⟨blanks, taken, -, rfl, -⟩ := taken_of_nextToken h
  rw [← List.append_assoc]
  exact List.suffix_append _ _

section Replace

variable (h : nextToken (part ++ rest) = some (.ok (token, rest)))

include h

theorem nextToken_replace (other : ∀ raw, token ≠ .text raw) (after : List Char) :
    nextToken (part ++ after) = some (.ok (token, after)) := by
  obtain ⟨blanks, taken, blank, hs, ht⟩ := taken_of_nextToken h
  rw [← List.append_assoc] at hs
  rw [List.append_cancel_right hs, List.append_assoc, nextToken_append_blanks blank]
  cases ht with
  | markup read => exact (nextToken_of_markup rfl).trans (congrArg some (read after))
  | text => exact absurd rfl (other _)

theorem nextToken_replace_text {raw gap : List Char} (ht : token = .text raw)
    (blank : ∀ c ∈ gap, isBlank c) (after : List Char) :
    nextToken (part ++ (gap ++ '<' :: after)) = some (.ok (.text raw, '<' :: after)) := by
  obtain ⟨blanks, taken, before, hs, taken⟩ := taken_of_nextToken h
  rw [← List.append_assoc] at hs
  rw [List.append_cancel_right hs, List.append_assoc, nextToken_append_blanks before]
  cases taken with
  | markup read => exact absurd ht (readMarkup_ne_text (read []) raw)
  | @text c word solid plain =>
    obtain rfl := Token.text.inj ht
    have gapless : ∀ d ∈ gap, decide (d ≠ '<') = true := by
      intro d hd
      apply decide_eq_true
      rintro rfl
      exact absurd (blank _ hd) (by decide)
    have wordless : ∀ d ∈ c :: word, decide (d ≠ '<') = true :=
      fun d hd => decide_eq_true fun he => plain (he ▸ hd)
    have front : ((c :: word) ++ (gap ++ '<' :: after)).dropWhile isBlank =
        c :: (word ++ (gap ++ '<' :: after)) := List.dropWhile_cons_of_neg (by simp [solid])
    rw [nextToken_of_text front (fun he => plain (by simp [he])), ← List.cons_append,
      List.takeWhile_append_of_pos wordless, List.takeWhile_append_of_pos gapless,
      List.takeWhile_cons_of_neg (by decide), List.append_nil, trimEnd_append_blanks blank,
      List.dropWhile_append_of_pos wordless, List.dropWhile_append_of_pos gapless,
      List.dropWhile_cons_of_neg (by decide)]

end Replace

theorem rest_of_text {raw : List Char} (h : nextToken s = some (.ok (.text raw, rest))) :
    rest = [] ∨ ∃ t, rest = '<' :: t := by
  obtain ⟨_, taken, -, -, ht⟩ := taken_of_nextToken h
  generalize htext : Token.text raw = token at ht
  cases ht with
  | markup read => exact absurd htext.symm (readMarkup_ne_text (read []) raw)
  | text _ _ ended => exact ended

theorem inTag_of_nextToken (h : nextToken s = some (.ok (token, rest))) (tag : token.IsTag) :
    ∃ content, InTag content ∧ token = ofTag content := by
  obtain ⟨_, taken, -, -, ht⟩ := taken_of_nextToken h
  cases ht with
  | markup read =>
    obtain ⟨content, -, inTag, ht⟩ | ⟨other, -⟩ := readMarkup_cases (read [])
    · exact ⟨content, inTag, ht⟩
    · cases token <;> contradiction
  | text => contradiction

end Front

section Faults

variable {s : List Char} {fault : Fault}

def FaultsWithin (read : List Char → Reading) : Prop :=
  ∀ ⦃s fault⦄, read s = .error fault → fault.rest <:+ s

theorem faultsWithin_comment : FaultsWithin readComment := by
  intro s fault h
  unfold readComment at h
  split at h
  · obtain rfl := Except.error.inj h
    exact List.nil_suffix
  · rename_i c s
    split at h
    · obtain rfl := Except.error.inj h
      exact List.nil_suffix
    · rename_i before after hs
      split at h
      · contradiction
      · obtain rfl := Except.error.inj h
        exact (Text.suffix_of_splitAt? hs).trans (List.suffix_cons c s)

theorem faultsWithin_characterData : FaultsWithin readCharacterData := by
  intro s fault h
  unfold readCharacterData at h
  split at h
  · obtain rfl := Except.error.inj h
    exact List.nil_suffix
  · rename_i content after hs
    split at h
    · contradiction
    · obtain rfl := Except.error.inj h
      exact Text.suffix_of_splitAt? hs

theorem faultsWithin_doctype : FaultsWithin readDoctype := by
  intro s fault h
  unfold readDoctype at h
  split at h
  · obtain rfl := Except.error.inj h
    exact List.nil_suffix
  · rename_i content after hs
    have behind : after <:+ s := by
      rw [(splitBalanced?_replace hs).1]
      exact (List.suffix_cons '>' after).trans (List.suffix_append content _)
    split at h
    · split at h
      · obtain rfl := Except.error.inj h
        exact behind
      · contradiction
    · obtain rfl := Except.error.inj h
      exact behind

theorem faultsWithin_instruction : FaultsWithin readInstruction := by
  intro s fault h
  unfold readInstruction at h
  split at h
  · obtain rfl := Except.error.inj h
    exact List.suffix_cons '>' _
  · split at h
    · obtain rfl := Except.error.inj h
      exact List.nil_suffix
    · contradiction

theorem faultsWithin_tag : FaultsWithin readTag := by
  intro s fault h
  unfold readTag at h
  split at h
  · obtain rfl := Except.error.inj h
    exact List.nil_suffix
  · contradiction

theorem faultsWithin_markup : FaultsWithin readMarkup := by
  intro s fault h
  unfold readMarkup at h
  split at h
  · exact (faultsWithin_comment h).trans (List.suffix_append ['!', '-'] _)
  · exact (faultsWithin_characterData h).trans (List.suffix_append ['!', '['] _)
  · exact (faultsWithin_doctype h).trans (List.suffix_append ['!', 'D'] _)
  · exact (faultsWithin_doctype h).trans (List.suffix_append ['!', 'd'] _)
  · obtain rfl := Except.error.inj h
    exact List.suffix_refl _
  · exact (faultsWithin_instruction h).trans (List.suffix_cons '?' _)
  · exact faultsWithin_tag h

theorem suffix_of_fault (h : nextToken s = some (.error fault)) : fault.rest <:+ s := by
  cases front : s.dropWhile isBlank with
  | nil =>
    rw [nextToken, front] at h
    contradiction
  | cons c text =>
    have behind : c :: text <:+ s := front ▸ List.dropWhile_suffix isBlank
    by_cases hc : c = '<'
    · subst hc
      rw [nextToken_of_markup front] at h
      have within := faultsWithin_markup (Option.some.inj h)
      exact (within.trans (List.suffix_cons '<' text)).trans behind
    · rw [nextToken_of_text front hc] at h
      cases Option.some.inj h

theorem blank_of_nextToken (h : nextToken s = none) : ∀ c ∈ s, isBlank c := by
  cases front : s.dropWhile isBlank with
  | nil => exact List.dropWhile_eq_nil_iff.mp front
  | cons c text =>
    by_cases hc : c = '<'
    · subst hc
      rw [nextToken_of_markup front] at h
      contradiction
    · rw [nextToken_of_text front hc] at h
      contradiction

end Faults

end CloudLookup.Markup
