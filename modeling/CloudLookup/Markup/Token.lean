import CloudLookup.Markup.Flaw
import CloudLookup.Text.Fields

/-! The tokens of a document: tags, texts and the rest. -/
namespace CloudLookup.Markup

inductive Token where
  | opening (name : List Char)
  /-- A tag that opens and closes an element. -/
  | empty (name : List Char)
  | closing (name : List Char)
  /-- A text between tags, trimmed, with its entities. -/
  | text (raw : List Char)
  /-- Character data, which has no entities. -/
  | characterData (content : List Char)
  /-- A comment, an instruction or a declaration. -/
  | aside
  deriving DecidableEq, Repr

/-- A flaw, and the text after the point where it was met. -/
structure Fault where
  flaw : Flaw
  rest : List Char
  deriving DecidableEq, Repr

def isBlank (c : Char) : Bool := c = ' ' || c = '\t' || c = '\r' || c = '\n'

/-- Cuts at the first `>` that does not stand in quotes. The quote that is open, if any, is
given. -/
def splitTag? (quote : Option Char) : List Char → Option (List Char × List Char)
  | [] => none
  | c :: s =>
    let go (quote : Option Char) : Option (List Char × List Char) :=
      (splitTag? quote s).map fun (tag, rest) => (c :: tag, rest)
    match quote with
    | some q => go (if c = q then none else some q)
    | none =>
      if c = '>' then some ([], s)
      else go (if c = '"' ∨ c = '\'' then some c else none)

/-- Cuts at the `>` that balances a `<`, when so many more are open. -/
def splitBalanced? (depth : Nat) : List Char → Option (List Char × List Char)
  | [] => none
  | c :: s =>
    if c = '>' ∧ depth = 0 then some ([], s)
    else
      let depth := if c = '<' then depth + 1 else if c = '>' then depth - 1 else depth
      (splitBalanced? depth s).map fun (content, rest) => (c :: content, rest)

theorem length_of_splitTag? {quote : Option Char} {s tag rest : List Char}
    (h : splitTag? quote s = some (tag, rest)) : s.length = tag.length + 1 + rest.length := by
  induction s generalizing quote tag with
  | nil => simp [splitTag?] at h
  | cons c s ih =>
    have step {q : Option Char} {tag : List Char}
        (h : (splitTag? q s).map (fun (t, r) => (c :: t, r)) = some (tag, rest)) :
        (c :: s).length = tag.length + 1 + rest.length := by
      obtain ⟨⟨t, r⟩, ht, he⟩ := Option.map_eq_some_iff.1 h
      simp only [Prod.mk.injEq] at he
      obtain ⟨rfl, rfl⟩ := he
      have := ih ht
      simp only [List.length_cons]; omega
    cases quote with
    | some q => exact step h
    | none =>
      simp only [splitTag?] at h
      split at h
      · simp only [Option.some.injEq, Prod.mk.injEq] at h
        simp [← h.1, ← h.2]; omega
      · exact step h

theorem length_of_splitBalanced? {depth : Nat} {s content rest : List Char}
    (h : splitBalanced? depth s = some (content, rest)) :
    s.length = content.length + 1 + rest.length := by
  induction s generalizing depth content with
  | nil => simp [splitBalanced?] at h
  | cons c s ih =>
    simp only [splitBalanced?] at h
    split at h
    · simp only [Option.some.injEq, Prod.mk.injEq] at h
      simp [← h.1, ← h.2]; omega
    · obtain ⟨⟨t, r⟩, ht, he⟩ := Option.map_eq_some_iff.1 h
      simp only [Prod.mk.injEq] at he
      obtain ⟨rfl, rfl⟩ := he
      have := ih ht
      simp only [List.length_cons]; omega

def tagName (content : List Char) : List Char := content.takeWhile fun c => !isBlank c

def trimEnd (s : List Char) : List Char := (s.reverse.dropWhile isBlank).reverse

/-- The name of an end tag: blanks at the end are cut, unless there is nothing else. -/
def closingName (content : List Char) : List Char :=
  if content.all isBlank then content else trimEnd content

/-- The token of a tag's content: an end tag starts with a slash, an empty one ends with one. -/
def ofTag (content : List Char) : Token :=
  match content with
  | '/' :: name => .closing (closingName name)
  | _ =>
    match content.reverse with
    | '/' :: rest => .empty (tagName rest.reverse)
    | _ => .opening (tagName content)

abbrev Reading := Except Fault (Token × List Char)

/-- Reads a comment after `<!-`. -/
def readComment (s : List Char) : Reading :=
  match s with
  | [] => .error ⟨.openComment, []⟩
  | c :: s =>
    match Text.splitAt? ['-', '-', '>'] s with
    | none => .error ⟨.openComment, []⟩
    | some (_, rest) => if c = '-' then .ok (.aside, rest) else .error ⟨.openComment, rest⟩

/-- Reads character data after `<![`. -/
def readCharacterData (s : List Char) : Reading :=
  match Text.splitAt? [']', ']', '>'] s with
  | none => .error ⟨.openCharacterData, []⟩
  | some (content, rest) =>
    match Text.strip? ['C', 'D', 'A', 'T', 'A', '['] content with
    | some content => .ok (.characterData content, rest)
    | none => .error ⟨.openCharacterData, rest⟩

/-- Reads a document type after `<!D`. -/
def readDoctype (s : List Char) : Reading :=
  match splitBalanced? 0 s with
  | none => .error ⟨.openDoctype, []⟩
  | some (content, rest) =>
    if (content.take 6).map Char.toLower = ['o', 'c', 't', 'y', 'p', 'e'] then
      if (content.drop 6).all isBlank then .error ⟨.unnamedDoctype, rest⟩ else .ok (.aside, rest)
    else .error ⟨.openDoctype, rest⟩

/-- Reads an instruction after `<?`. -/
def readInstruction (s : List Char) : Reading :=
  match s with
  | '>' :: rest => .error ⟨.openInstruction, rest⟩
  | s =>
    match Text.splitAt? ['?', '>'] s with
    | none => .error ⟨.openInstruction, []⟩
    | some (_, rest) => .ok (.aside, rest)

def readTag (s : List Char) : Reading :=
  match splitTag? none s with
  | none => .error ⟨.openTag, []⟩
  | some (content, rest) => .ok (ofTag content, rest)

def readMarkup (s : List Char) : Reading :=
  match s with
  | '!' :: '-' :: rest => readComment rest
  | '!' :: '[' :: rest => readCharacterData rest
  | '!' :: 'D' :: rest => readDoctype rest
  | '!' :: 'd' :: rest => readDoctype rest
  | '!' :: _ => .error ⟨.unknownMarkup, s⟩
  | '?' :: rest => readInstruction rest
  | _ => readTag s

/-- Reads the next token; blanks around texts belong to none. At the end there is none. -/
def nextToken (s : List Char) : Option Reading :=
  match s.dropWhile isBlank with
  | [] => none
  | '<' :: rest => some (readMarkup rest)
  | text => some (.ok (.text (trimEnd (text.takeWhile (· ≠ '<'))), text.dropWhile (· ≠ '<')))

section Length

variable {s rest : List Char} {token : Token}

theorem length_of_readComment (h : readComment s = .ok (token, rest)) : rest.length ≤ s.length := by
  unfold readComment at h
  split at h
  · contradiction
  · split at h
    · contradiction
    · rename_i hs
      have cut := Text.length_of_splitAt? hs
      split at h
      · obtain ⟨-, rfl⟩ := Prod.mk.inj (Except.ok.inj h)
        rw [List.length_cons]
        omega
      · contradiction

theorem length_of_readCharacterData (h : readCharacterData s = .ok (token, rest)) :
    rest.length ≤ s.length := by
  unfold readCharacterData at h
  split at h
  · contradiction
  · rename_i hs
    have cut := Text.length_of_splitAt? hs
    split at h
    · obtain ⟨-, rfl⟩ := Prod.mk.inj (Except.ok.inj h)
      omega
    · contradiction

theorem length_of_readDoctype (h : readDoctype s = .ok (token, rest)) : rest.length ≤ s.length := by
  unfold readDoctype at h
  split at h
  · contradiction
  · rename_i hs
    have cut := length_of_splitBalanced? hs
    split at h
    · split at h
      · contradiction
      · obtain ⟨-, rfl⟩ := Prod.mk.inj (Except.ok.inj h)
        omega
    · contradiction

theorem length_of_readInstruction (h : readInstruction s = .ok (token, rest)) :
    rest.length ≤ s.length := by
  unfold readInstruction at h
  split at h
  · contradiction
  · split at h
    · contradiction
    · rename_i hs
      have cut := Text.length_of_splitAt? hs
      obtain ⟨-, rfl⟩ := Prod.mk.inj (Except.ok.inj h)
      omega

theorem length_of_readTag (h : readTag s = .ok (token, rest)) : rest.length ≤ s.length := by
  unfold readTag at h
  split at h
  · contradiction
  · rename_i hs
    have cut := length_of_splitTag? hs
    obtain ⟨-, rfl⟩ := Prod.mk.inj (Except.ok.inj h)
    omega

theorem length_of_readMarkup (h : readMarkup s = .ok (token, rest)) : rest.length ≤ s.length := by
  have behind (a b : Char) (s : List Char) : s.length ≤ (a :: b :: s).length := by
    simp only [List.length_cons]
    omega
  unfold readMarkup at h
  split at h
  · exact Nat.le_trans (length_of_readComment h) (behind ..)
  · exact Nat.le_trans (length_of_readCharacterData h) (behind ..)
  · exact Nat.le_trans (length_of_readDoctype h) (behind ..)
  · exact Nat.le_trans (length_of_readDoctype h) (behind ..)
  · contradiction
  · exact Nat.le_succ_of_le (length_of_readInstruction h)
  · exact length_of_readTag h

theorem length_of_nextToken (h : nextToken s = some (.ok (token, rest))) :
    rest.length < s.length := by
  have le : (s.dropWhile isBlank).length ≤ s.length := (List.dropWhile_sublist isBlank).length_le
  unfold nextToken at h
  split at h
  · simp at h
  · rename_i r hr
    have := length_of_readMarkup (Option.some.inj h)
    rw [hr, List.length_cons] at le
    omega
  · rename_i hr
    simp only [Option.some.injEq, Except.ok.injEq, Prod.mk.injEq] at h
    obtain ⟨-, rfl⟩ := h
    cases hx : s.dropWhile isBlank with
    | nil => simp_all
    | cons c text =>
      have hc : c ≠ '<' := by rintro rfl; simp_all
      rw [hx, List.length_cons] at le
      have := (List.dropWhile_sublist (fun c => decide (c ≠ '<')) (l := text)).length_le
      rw [List.dropWhile_cons, if_pos (by simpa using hc)]
      omega

end Length

end CloudLookup.Markup
