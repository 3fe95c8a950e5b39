import CloudLookup.Proofs.Markup.Reading

/-! Reading as a relation. A document that is read is taken token by token; each leads on, until
one ends the root. -/
namespace CloudLookup.Markup

inductive Fits : List (List Char) → Token → Event → List (List Char) → Prop where
  | opening (name : List Char) (names : List (List Char)) :
    Fits names (.opening name) (.opened name) (name :: names)
  | closing (name : List Char) (names : List (List Char)) :
    Fits (name :: names) (.closing name) .closed names
  | empty (name : List Char) (names : List (List Char)) :
    Fits names (.empty name) (.empty name) names
  | text (raw : List Char) (names : List (List Char)) : Fits names (.text raw) (.text raw) names
  | characterData (content : List Char) (names : List (List Char)) :
    Fits names (.characterData content) (.characterData content) names
  | aside (names : List (List Char)) : Fits names .aside .aside names

theorem ofToken_eq_ok_iff {names names' : List (List Char)} {token : Token} {event : Event} :
    Event.ofToken names token = .ok (event, names') ↔ Fits names token event names' := by
  constructor
  · intro h
    cases token with
    | closing name =>
      cases names with
      | nil => contradiction
      | cons innermost outer =>
        rw [Event.ofToken] at h
        split at h
        · rename_i same
          obtain ⟨rfl, rfl⟩ := Prod.mk.inj (Except.ok.inj h)
          exact same ▸ .closing name outer
        · contradiction
    | _ =>
      obtain ⟨rfl, rfl⟩ := Prod.mk.inj (Except.ok.inj h)
      constructor
  · rintro (_ | ⟨name, names⟩ | _)
    case closing => exact if_pos rfl
    all_goals rfl

/-- Where an event leads: an element starts, ends or gets more text, or nothing changes. -/
inductive Advances (shapes : Shapes) : List Element → Event → Progress → Prop where
  | opened (name : List Char) (elements : List Element) :
    Advances shapes elements (.opened name) (.within (Element.start (localName name) :: elements))
  | empty (name : List Char) (elements : List Element) :
    Advances shapes elements (.empty name)
      (finish shapes (Element.start (localName name)) elements)
  | closed (e : Element) (outer : List Element) :
    Advances shapes (e :: outer) .closed (finish shapes e outer)
  | outside (raw : List Char) : Advances shapes [] (.text raw) (.within [])
  | text {raw text : List Char} (decoded : decode raw = .ok text) (e : Element)
    (outer : List Element) :
    Advances shapes (e :: outer) (.text raw) (.within (addText text (e :: outer)))
  | characterData (content : List Char) (elements : List Element) :
    Advances shapes elements (.characterData content) (.within (addText content elements))
  | aside (elements : List Element) : Advances shapes elements .aside (.within elements)

theorem advances {shapes : Shapes} {elements : List Element} {event : Event} {progress : Progress}
    (led : advance shapes elements event = .ok progress) :
    Advances shapes elements event progress := by
  cases event with
  | closed =>
    cases elements with
    | nil => contradiction
    | cons e outer =>
      obtain rfl := Except.ok.inj led
      exact .closed e outer
  | text raw =>
    cases elements with
    | nil =>
      obtain rfl := Except.ok.inj led
      exact .outside raw
    | cons e outer =>
      cases decoded : decode raw with
      | error flaw => simp [advance, decoded] at led
      | ok text =>
        obtain rfl : Progress.within (addText text (e :: outer)) = progress := by
          simpa [advance, decoded] using led
        exact .text decoded e outer
  | _ =>
    obtain rfl := Except.ok.inj led
    constructor

/-- A text is read to a root. The names are those of the open elements as they are written. -/
inductive Reads (shapes : Shapes) (root : Root) :
    List (List Char) → List Element → List Char → Prop where
  | ended {names names' : List (List Char)} {elements : List Element} {s rest : List Char}
    {token : Token} {event : Event} (front : nextToken s = some (.ok (token, rest)))
    (fits : Event.ofToken names token = .ok (event, names'))
    (led : advance shapes elements event = .ok (.finished root)) :
    Reads shapes root names elements s
  | onward {names names' : List (List Char)} {elements elements' : List Element}
    {s rest : List Char} {token : Token} {event : Event}
    (front : nextToken s = some (.ok (token, rest)))
    (fits : Event.ofToken names token = .ok (event, names'))
    (led : advance shapes elements event = .ok (.within elements'))
    (further : Reads shapes root names' elements' rest) : Reads shapes root names elements s

def Progress.ReadsOn (shapes : Shapes) (root : Root) (names : List (List Char))
    (rest : List Char) : Progress → Prop
  | .finished root' => root' = root
  | .within elements => Reads shapes root names elements rest

section Relation

variable {shapes : Shapes} {total : Nat} {names names' : List (List Char)}
  {elements : List Element} {s rest : List Char} {token : Token} {event : Event} {root : Root}

theorem reads_iff_of_front (front : nextToken s = some (.ok (token, rest)))
    (fits : Event.ofToken names token = .ok (event, names')) :
    Reads shapes root names elements s ↔
      ∃ progress, advance shapes elements event = .ok progress ∧
        progress.ReadsOn shapes root names' rest := by
  have same {token' : Token} {rest' : List Char} {event' : Event} {names₁ : List (List Char)}
      (front' : nextToken s = some (.ok (token', rest')))
      (fits' : Event.ofToken names token' = .ok (event', names₁)) :
      rest = rest' ∧ event = event' ∧ names' = names₁ := by
    rw [front] at front'
    obtain ⟨rfl, rfl⟩ := Prod.mk.inj (Except.ok.inj (Option.some.inj front'))
    rw [fits] at fits'
    obtain ⟨rfl, rfl⟩ := Prod.mk.inj (Except.ok.inj fits')
    exact ⟨rfl, rfl, rfl⟩
  constructor
  · intro h
    cases h with
    | ended front' fits' led =>
      obtain ⟨rfl, rfl, rfl⟩ := same front' fits'
      exact ⟨_, led, rfl⟩
    | onward front' fits' led further =>
      obtain ⟨rfl, rfl, rfl⟩ := same front' fits'
      exact ⟨_, led, further⟩
  · rintro ⟨progress, led, on⟩
    cases progress with
    | finished root' =>
      obtain rfl : root' = root := on
      exact .ended front fits led
    | within elements' => exact .onward front fits led on

theorem reads_iff_readsOn {progress : Progress} (front : nextToken s = some (.ok (token, rest)))
    (fits : Event.ofToken names token = .ok (event, names'))
    (led : advance shapes elements event = .ok progress) :
    Reads shapes root names elements s ↔ progress.ReadsOn shapes root names' rest := by
  rw [reads_iff_of_front front fits, led]
  simp

theorem readFrom_eq_ok (h : readFrom shapes total names elements s = .ok root) :
    ∃ token rest event names' progress, nextToken s = some (.ok (token, rest)) ∧
      Event.ofToken names token = .ok (event, names') ∧
      advance shapes elements event = .ok progress ∧
      resume shapes total names' progress rest = .ok root := by
  rw [readFrom] at h
  split at h
  · contradiction
  · contradiction
  · rename_i token rest ht
    split at h
    · contradiction
    · rename_i event names' he
      split at h
      · contradiction
      · rename_i root' ha
        exact ⟨token, rest, event, names', .finished root', ht, he, ha, h⟩
      · rename_i elements' ha
        exact ⟨token, rest, event, names', .within elements', ht, he, ha, h⟩

theorem reads_of_readFrom (h : readFrom shapes total names elements s = .ok root) :
    Reads shapes root names elements s := by
  induction hn : s.length using Nat.strongRecOn generalizing names elements s with
  | ind n ih =>
    obtain ⟨token, rest, event, names', progress, ht, he, ha, hr⟩ := readFrom_eq_ok h
    cases progress with
    | finished root' =>
      obtain rfl := Except.ok.inj hr
      exact .ended ht he ha
    | within elements' => exact .onward ht he ha (ih _ (hn ▸ length_of_nextToken ht) hr rfl)

theorem Reads.readFrom (h : Reads shapes root names elements s) (total : Nat) :
    readFrom shapes total names elements s = .ok root := by
  induction h with
  | ended front fits led => rw [readFrom_eq_resume front fits led, resume]
  | onward front fits led _ ih => rw [readFrom_eq_resume front fits led, resume, ih]

theorem Reads.ne_nil (h : Reads shapes root names elements s) : s ≠ [] := by
  rintro rfl
  cases h <;> contradiction

theorem Reads.ne_nil_of_text {raw : List Char} (h : Reads shapes root names elements s)
    (front : nextToken s = some (.ok (.text raw, rest))) : rest ≠ [] := by
  obtain ⟨progress, led, on⟩ := (reads_iff_of_front front rfl).mp h
  cases advances led with
  | outside | text => exact on.ne_nil

end Relation

end CloudLookup.Markup
