import CloudLookup.Proofs.Markup.Nesting
import CloudLookup.Proofs.Markup.Tag
import Mathlib.Logic.Relation

/-! Documents that are written another way. White space and comments between tokens, attributes,
prefixes of names and the two ways to write an empty element do not change what is read. -/
namespace CloudLookup.Markup

inductive Layout : List Char → Prop where
  | none : Layout []
  | blank {c : Char} {s : List Char} (h : isBlank c) (rest : Layout s) : Layout (c :: s)
  | comment {text s : List Char} (plain : ∀ c ∈ text, c ≠ '-' ∧ c ≠ '>') (rest : Layout s) :
    Layout ("<!--".toList ++ (text ++ ("-->".toList ++ s)))

/-- Reading goes over blanks and tokens up to what is ahead. The names of the open elements change
from the first ones to the last ones. -/
inductive Reaches (ahead : List Char) :
    List (List Char) → List Char → List (List Char) → Prop where
  | here {names : List (List Char)} : Reaches ahead names [] names
  | blank {names names' : List (List Char)} {c : Char} {before : List Char} (h : isBlank c)
    (rest : Reaches ahead names before names') : Reaches ahead names (c :: before) names'
  | token {names names₁ names' : List (List Char)} {piece before : List Char} {token : Token}
    {event : Event}
    (front : nextToken (piece ++ (before ++ ahead)) = some (.ok (token, before ++ ahead)))
    (fits : Event.ofToken names token = .ok (event, names₁))
    (rest : Reaches ahead names₁ before names') : Reaches ahead names (piece ++ before) names'

inductive Rewritten : List Char → List Char → Prop where
  | layout {gap : List Char} (h : Layout gap) (s : List Char) : Rewritten s (gap ++ s)
  | expanded {name : List Char} (slash : '/' ∉ name)
    (read : nextToken (tag (name ++ ['/'])) = some (.ok (.empty name, []))) (s : List Char) :
    Rewritten (tag (name ++ ['/']) ++ s) (tag name ++ (tag ('/' :: name) ++ s))
  | collapsed {name : List Char} (slash : '/' ∉ name) (present : name ≠ [])
    (read : nextToken (tag name) = some (.ok (.opening name, []))) (s : List Char) :
    Rewritten (tag name ++ (tag ('/' :: name) ++ s)) (tag (name ++ ['/']) ++ s)
  /-- A start tag has one attribute more, right after its name or where no quote is open. -/
  | startAttribute {front more : List Char}
    (read : nextToken (tag (front ++ more)) = some (.ok (.opening (tagName front), [])))
    (place : tagName front = front ∨ quoteAfter? none front = some none) (a : Attribute)
    (s : List Char) : Rewritten (tag (front ++ more) ++ s) (tag (front ++ (a.write ++ more)) ++ s)
  | emptyAttribute {front more : List Char}
    (read : nextToken (tag (front ++ (more ++ ['/']))) = some (.ok (.empty (tagName front), [])))
    (closed : quoteAfter? none front = some none) (a : Attribute) (s : List Char) :
    Rewritten (tag (front ++ (more ++ ['/'])) ++ s)
      (tag (front ++ (a.write ++ (more ++ ['/']))) ++ s)
  | emptyPrefix {content name : List Char}
    (read : nextToken (tag content) = some (.ok (.empty name, []))) (colon : ':' ∉ name) (p : Name)
    (s : List Char) : Rewritten (tag content ++ s) (tag (prefixed p content) ++ s)
  | pairPrefix {content name body ending : List Char}
    (opens : nextToken (tag content) = some (.ok (.opening name, [])))
    (closes : nextToken (tag ('/' :: ending)) = some (.ok (.closing name, [])))
    (colon : ':' ∉ name) (p : Name) {s : List Char}
    (balanced : Reaches (tag ('/' :: ending) ++ s) [] body []) :
    Rewritten (tag content ++ (body ++ (tag ('/' :: ending) ++ s)))
      (tag (prefixed p content) ++ (body ++ (tag ('/' :: prefixed p ending) ++ s)))

/-- A document is written another way at one place, which is reached when it is read. -/
inductive Edit (document document' : List Char) : Prop where
  | intro {before s s' : List Char} {names : List (List Char)}
    (old : dropMark document = before ++ s) (new : dropMark document' = before ++ s')
    (reached : Reaches s [] before names) (rewritten : Rewritten s s')

/-- Whatever a text is read to, another one is read to as well. -/
def Refines (names names' : List (List Char)) (s s' : List Char) : Prop :=
  ∀ ⦃shapes : Shapes⦄ ⦃root : Root⦄ ⦃elements : List Element⦄, names.length = elements.length →
    Reads shapes root names elements s → Reads shapes root names' elements s'

section Front

variable {shapes : Shapes} {root : Root} {names names' : List (List Char)}
  {elements : List Element} {s t rest rest' : List Char} {token token' : Token}
  {event event' : Event}

theorem reads_congr (same : nextToken s = nextToken t) :
    Reads shapes root names elements s → Reads shapes root names elements t := by
  intro h
  cases h with
  | ended front fits led => exact .ended (same ▸ front) fits led
  | onward front fits led further => exact .onward (same ▸ front) fits led further

theorem reads_blanks {blanks : List Char} (h : ∀ c ∈ blanks, isBlank c) :
    Reads shapes root names elements (blanks ++ s) ↔ Reads shapes root names elements s :=
  ⟨reads_congr (nextToken_append_blanks h s), reads_congr (nextToken_append_blanks h s).symm⟩

theorem refines_of_front {names₁ names₁' : List (List Char)}
    (front : nextToken s = some (.ok (token, rest)))
    (front' : nextToken t = some (.ok (token', rest')))
    (fits : Event.ofToken names token = .ok (event, names₁))
    (fits' : Event.ofToken names' token' = .ok (event', names₁'))
    (alike : ∀ shapes elements, advance shapes elements event' = advance shapes elements event)
    (further : Refines names₁ names₁' rest rest') : Refines names names' s t := by
  intro shapes root elements sync h
  obtain ⟨progress, led, on⟩ := (reads_iff_of_front front fits).mp h
  refine (reads_iff_of_front front' fits').mpr ⟨progress, (alike ..).trans led, ?_⟩
  cases progress with
  | finished root' => exact on
  | within elements' => exact further (length_names fits led sync) on

end Front

section Frame

variable {ahead ahead' before : List Char} {names names' : List (List Char)}

theorem ofToken_append {token : Token} {event : Event}
    (h : Event.ofToken names token = .ok (event, names')) (outer : List (List Char)) :
    Event.ofToken (names ++ outer) token = .ok (event, names' ++ outer) := by
  rw [ofToken_eq_ok_iff] at h ⊢
  cases h <;> constructor

def StartsMarkup (s : List Char) : Prop :=
  ∃ gap t, (∀ c ∈ gap, isBlank c) ∧ s = gap ++ '<' :: t

theorem Reaches.refines (h : Reaches ahead names before names') {outer outer' : List (List Char)}
    (markup : ∀ t, ahead = '<' :: t → StartsMarkup ahead')
    (further : Refines (names' ++ outer) (names' ++ outer') ahead ahead') :
    Refines (names ++ outer) (names ++ outer') (before ++ ahead) (before ++ ahead') := by
  induction h with
  | here => exact further
  | @blank _ _ c _ hc _ ih =>
    intro shapes root elements sync h
    have blank : ∀ d ∈ [c], isBlank d := by simpa using hc
    exact (reads_blanks blank).mpr (ih further sync ((reads_blanks blank).mp h))
  | @token _ _ _ piece before token event front fits _ ih =>
    have goesOn := ih further
    rw [List.append_assoc, List.append_assoc]
    have step {rest : List Char}
        (front' : nextToken (piece ++ (before ++ ahead')) = some (.ok (token, rest)))
        (onward : Refines _ _ (before ++ ahead) rest) :=
      refines_of_front front front' (ofToken_append fits outer) (ofToken_append fits outer')
        (fun _ _ => rfl) onward
    by_cases text : ∃ raw, token = .text raw
    · obtain ⟨raw, rfl⟩ := text
      obtain empty | ⟨t, ht⟩ := rest_of_text front
      · exact fun _ _ _ _ h => absurd empty (h.ne_nil_of_text front)
      · have starts : StartsMarkup (before ++ ahead') := by
          cases before with
          | nil => exact markup t ht
          | cons c before => exact ⟨[], _, by simp, by rw [← (List.cons.inj ht).1]; rfl⟩
        obtain ⟨gap, t', blank, hs⟩ := starts
        refine step (hs ▸ nextToken_replace_text front rfl blank t') fun _ _ _ sync h => ?_
        exact (reads_blanks blank).mp (hs ▸ goesOn sync h)
    · exact step (nextToken_replace front (fun raw ht => text ⟨raw, ht⟩) _) goesOn

end Frame

section Names

variable {shapes : Shapes} {root : Root} {names : List (List Char)} {elements : List Element}
  {s : List Char}

theorem mem_ofToken {names' : List (List Char)} {token : Token} {event : Event}
    (fits : Event.ofToken names token = .ok (event, names')) {name : List Char}
    (h : name ∈ names) : name ∈ names' ∨ token = .closing name := by
  cases ofToken_eq_ok_iff.mp fits with
  | opening => exact .inl (List.mem_cons_of_mem _ h)
  | closing =>
    obtain rfl | h := List.mem_cons.mp h
    · exact .inr rfl
    · exact .inl h
  | _ => exact .inl h

theorem Reads.names_closed (h : Reads shapes root names elements s)
    (sync : names.length = elements.length) :
    ∀ name ∈ names, quoteAfter? none name = some none := by
  have ended {token : Token} {s rest name : List Char}
      (front : nextToken s = some (.ok (token, rest))) (closing : token = .closing name) :
      quoteAfter? none name = some none := by
    subst closing
    obtain ⟨content, inTag, ht⟩ := inTag_of_nextToken front trivial
    exact closed_of_closing inTag ht.symm
  induction h with
  | ended front fits led =>
    intro name hn
    obtain open_ | closing := mem_ofToken fits hn
    · simp [names_of_finished fits led sync] at open_
    · exact ended front closing
  | onward front fits led _ ih =>
    intro name hn
    obtain open_ | closing := mem_ofToken fits hn
    · exact ih (length_names fits led sync) name open_
    · exact ended front closing

end Names

section Steps

variable {s t content name more : List Char} {names : List (List Char)}

theorem ofToken_closing (name : List Char) (names : List (List Char)) :
    Event.ofToken (name :: names) (.closing name) = .ok (.closed, names) :=
  ofToken_eq_ok_iff.mpr (.closing name names)

theorem nextToken_comment {text : List Char} (h : ∀ c ∈ text, c ≠ '-' ∧ c ≠ '>') (s : List Char) :
    nextToken ("<!--".toList ++ (text ++ ("-->".toList ++ s))) = some (.ok (.aside, s)) := by
  have dashless : '-' ∉ text := fun hm => (h _ hm).1 rfl
  have found : Text.splitAt? ['-', '-', '>'] (text ++ (['-', '-', '>'] ++ s)) = some (text, s) := by
    rw [Text.Passes.of_not_mem dashless, Text.splitAt?_append]
    simp
  have read : readMarkup ('!' :: '-' :: '-' :: (text ++ (['-', '-', '>'] ++ s))) =
      .ok (.aside, s) := by
    change readComment ('-' :: (text ++ (['-', '-', '>'] ++ s))) = _
    simp only [readComment, found]
    rfl
  exact (nextToken_of_markup rfl).trans (congrArg some read)

theorem Layout.refines {gap : List Char} (h : Layout gap) (names : List (List Char))
    (s : List Char) : Refines names names s (gap ++ s) := by
  induction h with
  | none => exact fun _ _ _ _ => id
  | @blank c _ hc _ ih =>
    intro shapes root elements sync reads
    have blank : ∀ d ∈ [c], isBlank d := by simpa using hc
    exact (reads_blanks blank).mpr (ih sync reads)
  | comment plain _ ih =>
    intro shapes root elements sync reads
    rw [List.append_assoc, List.append_assoc, List.append_assoc]
    exact .onward (nextToken_comment plain _) rfl rfl (ih sync reads)

theorem Layout.startsMarkup {gap : List Char} (h : Layout gap) (t : List Char) :
    StartsMarkup (gap ++ '<' :: t) := by
  induction h with
  | none => exact ⟨[], t, by simp, rfl⟩
  | @blank c _ hc _ ih =>
    obtain ⟨gap, t', blank, hs⟩ := ih
    refine ⟨c :: gap, t', ?_, congrArg (c :: ·) hs⟩
    simpa [hc] using blank
  | comment => exact ⟨[], _, by simp, rfl⟩

theorem reads_empty_iff {shapes : Shapes} {root : Root} {elements : List Element}
    (whole : nextToken s = some (.ok (.empty name, more)))
    (opens : nextToken t = some (.ok (.opening name, content)))
    (closes : nextToken content = some (.ok (.closing name, more))) :
    Reads shapes root names elements s ↔ Reads shapes root names elements t := by
  rw [reads_iff_readsOn whole rfl rfl, reads_iff_readsOn opens rfl rfl]
  exact (reads_iff_readsOn closes (ofToken_closing name names) rfl).symm

theorem refines_tag {content' s' : List Char} {names₁ names' names₁' : List (List Char)}
    {token token' : Token} {event event' : Event} (old : InTag content ∧ ofTag content = token)
    (new : InTag content' ∧ ofTag content' = token')
    (fits : Event.ofToken names token = .ok (event, names₁))
    (fits' : Event.ofToken names' token' = .ok (event', names₁'))
    (alike : ∀ shapes elements, advance shapes elements event' = advance shapes elements event)
    (further : Refines names₁ names₁' s s') :
    Refines names names' (tag content ++ s) (tag content' ++ s') :=
  refines_of_front (old.2 ▸ old.1.nextToken_tag s) (new.2 ▸ new.1.nextToken_tag s') fits fits' alike
    further

theorem refines_refl (names : List (List Char)) (s : List Char) : Refines names names s s :=
  fun _ _ _ _ => id

end Steps

section Rewritten

variable {s s' : List Char}

theorem Rewritten.startsMarkup (h : Rewritten s s') (t : List Char) (hs : s = '<' :: t) :
    StartsMarkup s' := by
  cases h with
  | layout h => exact hs ▸ h.startsMarkup t
  | _ => exact ⟨[], _, by simp, rfl⟩

theorem Rewritten.refines (h : Rewritten s s') (names : List (List Char)) :
    Refines names names s s' := by
  cases h with
  | layout h => exact h.refines names _
  | @expanded name slash read s =>
    obtain ⟨inTag, kind⟩ := inTag_of_tag read trivial
    have plain : ∀ c ∈ name, isBlank c = false := by
      obtain ⟨c, hc, -, hn⟩ := ofTag_eq_empty kind
      obtain rfl := List.append_cancel_right hc
      exact not_blank_of_tagName hn
    exact fun _ _ _ _ => (reads_empty_iff (kind ▸ inTag.nextToken_tag s)
      (ofTag_name slash plain ▸ inTag.of_slash.nextToken_tag _)
      (ofTag_slash_name plain ▸ (inTag_closing inTag.of_slash.closed).nextToken_tag s)).mp
  | @collapsed name slash present read s =>
    obtain ⟨inTag, kind⟩ := inTag_of_tag read trivial
    have plain := not_blank_of_tagName (ofTag_eq_opening kind).2.2
    exact fun _ _ _ _ => (reads_empty_iff
      (ofTag_name_slash slash plain present ▸ (inTag.append_slash present).nextToken_tag s)
      (kind ▸ inTag.nextToken_tag _)
      (ofTag_slash_name plain ▸ (inTag_closing inTag.closed).nextToken_tag s)).mpr
  | @startAttribute front more read place a s =>
    obtain ⟨inTag, kind⟩ := inTag_of_tag read trivial
    intro shapes root elements sync reads
    have closed : quoteAfter? none front = some none := by
      obtain whole | closed := place
      · -- The end tag of the element has the name too, and it could not end in a quote.
        have within := (reads_iff_readsOn (kind ▸ inTag.nextToken_tag s) rfl rfl).mp reads
        have closed := Reads.names_closed within (by simpa using sync) _ List.mem_cons_self
        rwa [whole] at closed
      · exact closed
    exact refines_tag ⟨inTag, kind⟩ ⟨a.inTag_insert inTag closed, a.ofTag_insert_opening kind⟩ rfl
      rfl (fun _ _ => rfl) (refines_refl _ s) sync reads
  | @emptyAttribute front more read closed a s =>
    obtain ⟨inTag, kind⟩ := inTag_of_tag read trivial
    exact refines_tag ⟨inTag, kind⟩ ⟨a.inTag_insert inTag closed, a.ofTag_insert_empty kind⟩ rfl rfl
      (fun _ _ => rfl) (refines_refl _ s)
  | @emptyPrefix content name read colon p s =>
    obtain ⟨inTag, kind⟩ := inTag_of_tag read trivial
    refine refines_tag ⟨inTag, kind⟩ ⟨inTag_prefixed p inTag.closed, ofTag_prefixed_empty p kind⟩
      rfl rfl (fun shapes elements => ?_) (refines_refl _ s)
    simp only [advance, localName_prefixed p colon]
  | @pairPrefix content name body ending opens closes colon p s balanced =>
    obtain ⟨inTag, kind⟩ := inTag_of_tag opens trivial
    obtain ⟨inEnd, ends⟩ := inTag_of_tag closes trivial
    have plain := not_blank_of_tagName (ofTag_eq_opening kind).2.2
    have closed : quoteAfter? none ending = some none := inEnd.closed
    have inEnd' := inTag_closing (inTag_prefixed p closed).closed
    have last : Refines (name :: names) (prefixed p name :: names) (tag ('/' :: ending) ++ s)
        (tag ('/' :: prefixed p ending) ++ s) :=
      refines_tag ⟨inEnd, ends⟩ ⟨inEnd', ofTag_prefixed_closing p ends plain⟩
        (ofToken_closing name names) (ofToken_closing _ names) (fun _ _ => rfl) (refines_refl _ s)
    refine refines_tag ⟨inTag, kind⟩ ⟨inTag_prefixed p inTag.closed, ofTag_prefixed_opening p kind⟩
      rfl rfl (fun shapes elements => ?_)
      (balanced.refines (fun _ _ => ⟨[], _, by simp, rfl⟩) last)
    simp only [advance, localName_prefixed p colon]

end Rewritten

/-- A document that is read is read to the same root when it is written another way, at any number
of places. -/
theorem read_edited {shapes : Shapes} {document document' : List Char} {root : Root}
    (edits : Relation.ReflTransGen Edit document document')
    (h : read shapes document = .ok root) : read shapes document' = .ok root := by
  induction edits with
  | refl => exact h
  | tail _ edit ih =>
    obtain ⟨old, new, reached, rewritten⟩ := edit
    unfold read at ih ⊢
    rw [old] at ih
    rw [new]
    have refined : Refines ([] ++ []) ([] ++ []) _ _ :=
      reached.refines rewritten.startsMarkup (rewritten.refines _)
    exact (refined rfl (reads_of_readFrom ih)).readFrom _

theorem read_edited_document :
    Relation.ReflTransGen Edit "<r><n/></r>".toList
        "<!--x--> <p:r a='>'><n></n></p:r>".toList ∧
      read Shapes.none "<r><n/></r>".toList = .ok ⟨"r", .object [("n", .object [])]⟩ ∧
      read Shapes.none "<!--x--> <p:r a='>'><n></n></p:r>".toList =
        .ok ⟨"r", .object [("n", .object [])]⟩ := by
  have expanded : Edit "<r><n/></r>".toList "<r><n></n></r>".toList := by
    have reached : Reaches "<n/></r>".toList [] ("<r>".toList ++ []) [['r']] :=
      .token rfl rfl .here
    have rewritten : Rewritten (tag (['n'] ++ ['/']) ++ "</r>".toList)
        (tag ['n'] ++ (tag ['/', 'n'] ++ "</r>".toList)) := .expanded (by decide) rfl _
    exact .intro rfl rfl reached rewritten
  have named : Edit "<r><n></n></r>".toList "<p:r><n></n></p:r>".toList := by
    have balanced : Reaches (tag ['/', 'r'] ++ []) [] ("<n>".toList ++ ("</n>".toList ++ [])) [] :=
      .token rfl rfl (.token rfl rfl .here)
    have rewritten : Rewritten (tag ['r'] ++ ("<n></n>".toList ++ (tag ['/', 'r'] ++ [])))
        (tag (prefixed ⟨"p", by decide, by decide⟩ ['r']) ++
          ("<n></n>".toList ++ (tag ('/' :: prefixed ⟨"p", by decide, by decide⟩ ['r']) ++ []))) :=
      .pairPrefix rfl rfl (by decide) _ balanced
    exact .intro rfl rfl .here rewritten
  have noted : Edit "<p:r><n></n></p:r>".toList "<p:r a='>'><n></n></p:r>".toList := by
    have rewritten : Rewritten (tag (['p', ':', 'r'] ++ []) ++ "<n></n></p:r>".toList)
        (tag (['p', ':', 'r'] ++ (Attribute.write ⟨[' '], by decide, by simp [isBlank],
          ⟨"a", by decide, by decide⟩, '\'', .inr rfl, ['>'], by decide⟩ ++ [])) ++
            "<n></n></p:r>".toList) := .startAttribute rfl (.inl rfl) _ _
    exact .intro rfl rfl .here rewritten
  have spaced : Edit "<p:r a='>'><n></n></p:r>".toList
      "<!--x--> <p:r a='>'><n></n></p:r>".toList := by
    have layout : Layout ("<!--".toList ++ (['x'] ++ ("-->".toList ++ [' ']))) :=
      .comment (by simp) (.blank (by decide) .none)
    exact .intro rfl rfl .here (.layout layout _)
  have edits := Relation.ReflTransGen.tail (.tail (.tail (.single expanded) named) noted) spaced
  have h : read Shapes.none "<r><n/></r>".toList = .ok ⟨"r", .object [("n", .object [])]⟩ := by
    with_unfolding_all rfl
  exact ⟨edits, h, read_edited edits h⟩

theorem read_attribute_in_open_quote :
    let a : Attribute := ⟨[' '], by decide, by simp [isBlank],
      ⟨"x", by decide, by decide⟩, '"', .inl rfl, ['>'], by decide⟩
    let name := "a\"b".toList
    let more := " c\"/".toList
    nextToken (tag (name ++ more)) = some (.ok (.empty name, [])) ∧
      read Shapes.none (tag (name ++ more)) = .ok ⟨"a\"b", .object []⟩ ∧
      tag (name ++ (a.write ++ more)) = "<a\"b x=\">\" c\"/>".toList ∧
      read Shapes.none (tag (name ++ (a.write ++ more))) = .error .incomplete := by
  refine ⟨by rfl, by with_unfolding_all rfl, by rfl, by with_unfolding_all rfl⟩

end CloudLookup.Markup
