import CloudLookup.Proofs.Markup.Token

/-! Tags that are written another way. An attribute after the name of a tag leaves the tag what it
is, unless the name has left a quote open, and a prefix changes nothing but the name. -/
namespace CloudLookup.Markup

def tag (content : List Char) : List Char := '<' :: (content ++ ['>'])

structure Attribute where
  gap : List Char
  spaced : gap ≠ []
  blank : ∀ c ∈ gap, isBlank c
  name : Name
  quote : Char
  isQuote : quote = '"' ∨ quote = '\''
  value : List Char
  quoted : quote ∉ value

def Attribute.write (a : Attribute) : List Char :=
  a.gap ++ (a.name.text.toList ++ '=' :: a.quote :: (a.value ++ [a.quote]))

def prefixed (p : Name) (name : List Char) : List Char := p.text.toList ++ ':' :: name

section Quotes

variable {s t : List Char}

theorem quoteAfter?_plain (h : ∀ c ∈ s, c ∉ ['>', '"', '\'']) : quoteAfter? none s = some none := by
  induction s with
  | nil => rfl
  | cons c s ih =>
    obtain ⟨hc, hs⟩ := List.forall_mem_cons.mp h
    simp only [List.mem_cons, List.not_mem_nil, or_false, not_or] at hc
    simp [quoteAfter?, hc, ih hs]

theorem quoteAfter?_inside {quote : Char} (h : quote ∉ s) :
    quoteAfter? (some quote) s = some (some quote) := by
  induction s with
  | nil => rfl
  | cons c s ih =>
    obtain ⟨hc, hs⟩ := not_or.mp (mt List.mem_cons.mpr h)
    simp [quoteAfter?, Ne.symm hc, ih hs]

theorem quoteAfter?_closed (h : quoteAfter? none s = some none) (t : List Char) :
    quoteAfter? none (s ++ t) = quoteAfter? none t := by
  rw [quoteAfter?_append, h, Option.bind_some]

theorem isQuote_of_quoteAfter? {quote : Option Char} {q : Char}
    (hq : ∀ c ∈ quote, c = '"' ∨ c = '\'') (h : quoteAfter? quote s = some (some q)) :
    q = '"' ∨ q = '\'' := by
  induction s generalizing quote with
  | nil => exact hq q (Option.some.inj h)
  | cons c s ih =>
    cases quote with
    | some d =>
      refine ih ?_ h
      split
      · simp
      · simpa using hq
    | none =>
      simp only [quoteAfter?] at h
      split at h
      · cases h
      · refine ih ?_ h
        split
        · simpa
        · simp

theorem closed_of_append_plain (h : quoteAfter? none (s ++ t) = some none)
    (plain : ∀ c ∈ t, c ∉ ['>', '"', '\'']) : quoteAfter? none s = some none := by
  rw [quoteAfter?_append] at h
  cases hs : quoteAfter? none s with
  | none => simp [hs] at h
  | some quote =>
    cases quote with
    | none => rfl
    | some q =>
      have inside : q ∉ t := by
        intro hq
        apply plain q hq
        obtain rfl | rfl := isQuote_of_quoteAfter? (by simp) hs <;> decide
      simp [hs, quoteAfter?_inside inside] at h

theorem plain_of_blank {c : Char} (h : isBlank c) : c ∉ ['>', '"', '\''] := by
  intro hc
  simp only [List.mem_cons, List.not_mem_nil, or_false] at hc
  obtain rfl | rfl | rfl := hc <;> contradiction

theorem Name.plain_of_mem (name : Name) {c : Char} (h : c ∈ name.text.toList) :
    c ∉ ['>', '"', '\''] := by
  intro hc
  apply (name.of_mem h).2
  simp only [List.mem_cons, List.not_mem_nil, or_false] at hc
  obtain rfl | rfl | rfl := hc <;> decide

end Quotes

section Kinds

variable {content name c : List Char}

theorem ofTag_cases (content : List Char) :
    (∃ c, content = '/' :: c ∧ ofTag content = .closing (closingName c)) ∨
      content.head? ≠ some '/' ∧
        ((∃ c, content = c ++ ['/'] ∧ ofTag content = .empty (tagName c)) ∨
          content.getLast? ≠ some '/' ∧ ofTag content = .opening (tagName content)) := by
  unfold ofTag
  split
  · exact .inl ⟨_, rfl, rfl⟩
  · rename_i start
    refine .inr ⟨fun hs => ?_, ?_⟩
    · obtain ⟨s, rfl⟩ := List.head?_eq_some_iff.mp hs
      exact start s rfl
    · split
      · rename_i rest hr
        exact .inl ⟨rest.reverse, by rw [← List.reverse_inj, hr]; simp, rfl⟩
      · rename_i last
        refine .inr ⟨fun hl => ?_, rfl⟩
        obtain ⟨s, rfl⟩ := List.getLast?_eq_some_iff.mp hl
        exact last s.reverse (by simp)

theorem ofTag_of_opening (head : content.head? ≠ some '/') (last : content.getLast? ≠ some '/') :
    ofTag content = .opening (tagName content) := by
  obtain ⟨c, rfl, -⟩ | ⟨-, ⟨c, rfl, -⟩ | ⟨-, h⟩⟩ := ofTag_cases content
  · exact absurd rfl head
  · exact absurd (by simp) last
  · exact h

theorem ofTag_of_empty (head : (c ++ ['/']).head? ≠ some '/') :
    ofTag (c ++ ['/']) = .empty (tagName c) := by
  obtain ⟨_, hc, -⟩ | ⟨-, ⟨_, hc, h⟩ | ⟨last, -⟩⟩ := ofTag_cases (c ++ ['/'])
  · exact absurd (by rw [hc]; rfl) head
  · rw [h, List.append_cancel_right hc]
  · exact absurd (by simp) last

theorem ofTag_eq_opening (h : ofTag content = .opening name) :
    content.head? ≠ some '/' ∧ content.getLast? ≠ some '/' ∧ tagName content = name := by
  obtain ⟨_, -, ht⟩ | ⟨head, ⟨_, -, ht⟩ | ⟨last, ht⟩⟩ := ofTag_cases content
  · simp [h] at ht
  · simp [h] at ht
  · exact ⟨head, last, Token.opening.inj (ht.symm.trans h)⟩

theorem ofTag_eq_empty (h : ofTag content = .empty name) :
    ∃ c, content = c ++ ['/'] ∧ content.head? ≠ some '/' ∧ tagName c = name := by
  obtain ⟨_, -, ht⟩ | ⟨head, ⟨c, hc, ht⟩ | ⟨-, ht⟩⟩ := ofTag_cases content
  · simp [h] at ht
  · exact ⟨c, hc, head, Token.empty.inj (ht.symm.trans h)⟩
  · simp [h] at ht

theorem not_blank_of_tagName (h : tagName content = name) : ∀ c ∈ name, isBlank c = false := by
  rintro c hc
  rw [← h] at hc
  simpa using List.mem_takeWhile_imp hc

theorem tagName_append (h : ∀ c ∈ name, isBlank c = false)
    (more : List Char) : tagName (name ++ more) = name ++ tagName more := by
  unfold tagName
  rw [List.takeWhile_append_of_pos fun c hc => by simp [h c hc]]

theorem tagName_of_not_blank (h : ∀ c ∈ name, isBlank c = false) : tagName name = name :=
  List.takeWhile_eq_self_iff.mpr fun c hc => by simp [h c hc]

theorem closingName_append {blanks : List Char} (h : ∀ c ∈ name, isBlank c = false)
    (present : name ≠ []) (blank : ∀ b ∈ blanks, isBlank b) :
    closingName (name ++ blanks) = name := by
  have solid : Text.Solid isBlank name :=
    ⟨fun c hc => h c (List.mem_of_mem_head? hc), fun c hc => h c (List.mem_of_getLast? hc)⟩
  obtain ⟨c, s, rfl⟩ := List.exists_cons_of_ne_nil present
  unfold closingName
  rw [if_neg (by simp [h c List.mem_cons_self]), trimEnd_append_blanks blank,
    trimEnd_of_solid solid]

theorem closingName_of_not_blank (h : ∀ c ∈ name, isBlank c = false) : closingName name = name := by
  by_cases present : name = []
  · rw [present]
    rfl
  · simpa using closingName_append h present (List.forall_mem_nil _)

theorem eq_closingName_append (c : List Char) :
    ∃ blanks, c = closingName c ++ blanks ∧ ∀ b ∈ blanks, isBlank b := by
  unfold closingName
  split
  · exact ⟨[], by simp, by simp⟩
  · refine ⟨(c.reverse.takeWhile isBlank).reverse, ?_, fun b hb => ?_⟩
    · rw [trimEnd, ← List.reverse_append, List.takeWhile_append_dropWhile, List.reverse_reverse]
    · exact List.mem_takeWhile_imp (List.mem_reverse.mp hb)

section Plain

variable (slash : '/' ∉ name) (plain : ∀ c ∈ name, isBlank c = false)

include slash plain in
theorem ofTag_name : ofTag name = .opening name := by
  rw [ofTag_of_opening (fun h => slash (List.mem_of_mem_head? h))
    (fun h => slash (List.mem_of_getLast? h)), tagName_of_not_blank plain]

include slash plain in
theorem ofTag_name_slash (present : name ≠ []) : ofTag (name ++ ['/']) = .empty name := by
  obtain ⟨c, s, rfl⟩ := List.exists_cons_of_ne_nil present
  have head : ((c :: s) ++ ['/']).head? ≠ some '/' := by
    rintro ⟨⟩
    exact slash List.mem_cons_self
  rw [ofTag_of_empty head, tagName_of_not_blank plain]

include plain in
theorem ofTag_slash_name : ofTag ('/' :: name) = .closing name :=
  congrArg Token.closing (closingName_of_not_blank plain)

end Plain

theorem closed_of_closing (h : InTag content) (ht : ofTag content = .closing name) :
    quoteAfter? none name = some none := by
  obtain ⟨c, rfl, hn⟩ | ⟨-, ⟨_, -, hn⟩ | ⟨-, hn⟩⟩ := ofTag_cases content
  · obtain rfl := Token.closing.inj (ht.symm.trans hn)
    obtain ⟨blanks, hc, blank⟩ := eq_closingName_append c
    have closed := h.closed
    rw [hc] at closed
    exact closed_of_append_plain closed fun b hb => plain_of_blank (blank b hb)
  · simp [ht] at hn
  · simp [ht] at hn

end Kinds

section Text

variable {content name : List Char} {token : Token}

theorem InTag.nextToken_tag (h : InTag content) (s : List Char) :
    nextToken (tag content ++ s) = some (.ok (ofTag content, s)) := by
  have text : tag content ++ s = '<' :: (content ++ '>' :: s) := by simp [tag]
  rw [text, nextToken_of_markup rfl, h.readMarkup]

theorem inTag_of_tag (read : nextToken (tag content) = some (.ok (token, [])))
    (kind : token.IsTag) : InTag content ∧ ofTag content = token := by
  rw [tag, nextToken_of_markup rfl] at read
  obtain ⟨_, hs, inTag, rfl⟩ | ⟨other, -⟩ := readMarkup_cases (Option.some.inj read)
  · obtain rfl := List.append_cancel_right hs
    exact ⟨inTag, rfl⟩
  · cases token <;> contradiction

theorem inTag_closing (h : quoteAfter? none name = some none) : InTag ('/' :: name) where
  closed := h
  head c hc := by
    obtain rfl := Option.some.inj hc
    decide

theorem InTag.of_slash (h : InTag (name ++ ['/'])) : InTag name where
  closed := closed_of_append_plain h.closed (by simp)
  head c hc := by
    obtain ⟨s, rfl⟩ := List.head?_eq_some_iff.mp hc
    exact h.head c rfl

theorem InTag.append_slash (h : InTag name) (present : name ≠ []) : InTag (name ++ ['/']) where
  closed := by
    rw [quoteAfter?_closed h.closed]
    rfl
  head c hc := by
    obtain ⟨d, s, rfl⟩ := List.exists_cons_of_ne_nil present
    exact h.head c hc

end Text

namespace Attribute

variable (a : Attribute)

theorem closed : quoteAfter? none a.write = some none := by
  have plain : ∀ c ∈ a.gap ++ (a.name.text.toList ++ ['=']), c ∉ ['>', '"', '\''] := by
    simp only [List.mem_append, List.mem_singleton]
    rintro c (hc | hc | rfl)
    · exact plain_of_blank (a.blank c hc)
    · exact a.name.plain_of_mem hc
    · decide
  have text : a.write =
      (a.gap ++ (a.name.text.toList ++ ['='])) ++ (a.quote :: (a.value ++ [a.quote])) := by
    simp [write]
  rw [text, quoteAfter?_closed (quoteAfter?_plain plain)]
  have opened : quoteAfter? none (a.quote :: (a.value ++ [a.quote])) =
      quoteAfter? (some a.quote) (a.value ++ [a.quote]) := by
    obtain h | h := a.isQuote <;> simp [h, quoteAfter?]
  rw [opened, quoteAfter?_append, quoteAfter?_inside a.quoted]
  simp [quoteAfter?]

theorem write_eq_cons : ∃ c s, a.write = c :: s ∧ isBlank c := by
  obtain ⟨c, s, h⟩ := List.exists_cons_of_ne_nil a.spaced
  exact ⟨c, _, by rw [write, h, List.cons_append], a.blank c (by simp [h])⟩

theorem getLast?_write : a.write.getLast? = some a.quote := by
  have text : a.write =
      (a.gap ++ (a.name.text.toList ++ '=' :: a.quote :: a.value)) ++ [a.quote] := by
    simp [write]
  rw [text, List.getLast?_concat]

variable {front more name : List Char}

theorem head?_insert (front more : List Char) :
    (front ++ (a.write ++ more)).head? = (front ++ more).head? ∨
      ∃ c, isBlank c ∧ (front ++ (a.write ++ more)).head? = some c := by
  cases front with
  | nil =>
    obtain ⟨c, s, h, blank⟩ := a.write_eq_cons
    exact .inr ⟨c, blank, by simp [h]⟩
  | cons c front => exact .inl rfl

theorem head_insert {d : Char} (hd : isBlank d = false) (h : (front ++ more).head? ≠ some d) :
    (front ++ (a.write ++ more)).head? ≠ some d := by
  obtain same | ⟨c, blank, hc⟩ := a.head?_insert front more
  · rwa [same]
  · rw [hc]
    rintro ⟨⟩
    simp [hd] at blank

theorem tagName_insert (front more : List Char) :
    tagName (front ++ (a.write ++ more)) = tagName front := by
  obtain ⟨c, s, hs, blank⟩ := a.write_eq_cons
  unfold tagName
  rw [hs, List.cons_append, List.takeWhile_append]
  split
  · rename_i whole
    rw [List.takeWhile_cons_of_neg (by simp [blank]), List.append_nil,
      (List.takeWhile_prefix _).eq_of_length whole]
  · rfl

theorem inTag_insert (h : InTag (front ++ more)) (closed : quoteAfter? none front = some none) :
    InTag (front ++ (a.write ++ more)) where
  closed := by
    have rest := h.closed
    rw [quoteAfter?_closed closed] at rest ⊢
    rwa [quoteAfter?_closed a.closed]
  head c hc := by
    constructor
    · rintro rfl
      exact a.head_insert (by decide) (fun hm => (h.head _ hm).1 rfl) hc
    · rintro rfl
      exact a.head_insert (by decide) (fun hm => (h.head _ hm).2 rfl) hc

theorem ofTag_insert_opening (h : ofTag (front ++ more) = .opening name) :
    ofTag (front ++ (a.write ++ more)) = .opening (tagName front) := by
  obtain ⟨head, last, -⟩ := ofTag_eq_opening h
  have last' : (front ++ (a.write ++ more)).getLast? ≠ some '/' := by
    rw [List.getLast?_append] at last ⊢
    rw [List.getLast?_append]
    cases hm : more.getLast? with
    | none =>
      obtain hq | hq := a.isQuote <;> simp [a.getLast?_write, hq]
    | some c => simpa [hm] using last
  rw [ofTag_of_opening (a.head_insert (by decide) head) last', a.tagName_insert]

theorem ofTag_insert_empty (h : ofTag (front ++ (more ++ ['/'])) = .empty name) :
    ofTag (front ++ (a.write ++ (more ++ ['/']))) = .empty (tagName front) := by
  obtain ⟨-, -, head, -⟩ := ofTag_eq_empty h
  have whole : front ++ (a.write ++ (more ++ ['/'])) = (front ++ (a.write ++ more)) ++ ['/'] := by
    simp
  have head' := a.head_insert (by decide) head
  rw [whole] at head' ⊢
  rw [ofTag_of_empty head', a.tagName_insert]

end Attribute

section Prefix

variable (p : Name) {content name c : List Char}

theorem prefixed_append (name more : List Char) :
    prefixed p (name ++ more) = prefixed p name ++ more := by
  simp [prefixed]

theorem head?_prefixed (content : List Char) :
    ∃ c ∈ p.text.toList, (prefixed p content).head? = some c := by
  obtain ⟨c, s, h⟩ := List.exists_cons_of_ne_nil p.nonempty
  exact ⟨c, by simp [h], by simp [prefixed, h]⟩

theorem head_prefixed {d : Char} (hd : d ∈ "<>/:=!?\"'".toList) (content : List Char) :
    (prefixed p content).head? ≠ some d := by
  obtain ⟨c, hc, h⟩ := head?_prefixed p content
  rw [h]
  rintro ⟨⟩
  exact p.not_mem hd hc

theorem inTag_prefixed (h : quoteAfter? none content = some none) : InTag (prefixed p content) where
  closed := by
    have plain : ∀ c ∈ p.text.toList ++ [':'], c ∉ ['>', '"', '\''] := by
      simp only [List.mem_append, List.mem_singleton]
      rintro c (hc | rfl)
      · exact p.plain_of_mem hc
      · decide
    have text : prefixed p content = (p.text.toList ++ [':']) ++ content := by simp [prefixed]
    rw [text, quoteAfter?_closed (quoteAfter?_plain plain), h]
  head c hc := by
    constructor
    · rintro rfl
      exact head_prefixed p (by decide) content hc
    · rintro rfl
      exact head_prefixed p (by decide) content hc

theorem not_blank_prefixed (h : ∀ c ∈ name, isBlank c = false) :
    ∀ c ∈ prefixed p name, isBlank c = false := by
  simp only [prefixed, List.mem_append, List.mem_cons]
  rintro c (hc | rfl | hc)
  · exact (p.of_mem hc).1
  · decide
  · exact h c hc

theorem tagName_prefixed (content : List Char) :
    tagName (prefixed p content) = prefixed p (tagName content) := by
  have plain : ∀ c ∈ prefixed p [], isBlank c = false := not_blank_prefixed p (by simp)
  have text : prefixed p content = prefixed p [] ++ content := by simp [prefixed]
  rw [text, tagName_append plain]
  simp [prefixed]

theorem ofTag_prefixed_opening (h : ofTag content = .opening name) :
    ofTag (prefixed p content) = .opening (prefixed p name) := by
  obtain ⟨-, last, rfl⟩ := ofTag_eq_opening h
  have last' : (prefixed p content).getLast? ≠ some '/' := by
    rw [prefixed, List.getLast?_append, List.getLast?_cons]
    cases hc : content.getLast? with
    | none => simp
    | some c => simpa [hc] using last
  rw [ofTag_of_opening (head_prefixed p (by decide) content) last', tagName_prefixed]

theorem ofTag_prefixed_empty (h : ofTag content = .empty name) :
    ofTag (prefixed p content) = .empty (prefixed p name) := by
  obtain ⟨c, rfl, -, rfl⟩ := ofTag_eq_empty h
  have head := head_prefixed p (d := '/') (by decide) (c ++ ['/'])
  rw [prefixed_append] at head ⊢
  rw [ofTag_of_empty head, tagName_prefixed]

theorem ofTag_prefixed_closing (h : ofTag ('/' :: c) = .closing name)
    (plain : ∀ c ∈ name, isBlank c = false) :
    ofTag ('/' :: prefixed p c) = .closing (prefixed p name) := by
  obtain rfl := Token.closing.inj h
  obtain ⟨blanks, hc, blank⟩ := eq_closingName_append c
  have text : prefixed p c = prefixed p (closingName c) ++ blanks := by
    rw [← prefixed_append, ← hc]
  rw [text]
  exact congrArg Token.closing
    (closingName_append (not_blank_prefixed p plain) (by simp [prefixed]) blank)

theorem localName_prefixed (h : ':' ∉ name) : localName (prefixed p name) = localName name := by
  rw [localName, prefixed, Text.splitFirst_append (p.not_mem (by decide)), localName,
    Text.splitFirst_of_not_mem h]

end Prefix

end CloudLookup.Markup
