import CloudLookup.Proofs.Markup.Element
import CloudLookup.Proofs.Markup.Entity
import CloudLookup.Proofs.Text.Cutting
import Mathlib.Data.List.TakeWhile

/-! Reading a written tree gives its name and its value. -/
namespace CloudLookup.Markup

open Text (Solid)

theorem Name.of_mem (name : Name) {c : Char} (h : c ∈ name.text.toList) :
    isBlank c = false ∧ c ∉ "<>/:=!?\"'".toList := by
  have hc := List.all_eq_true.mp name.plain c h
  unfold isNameChar at hc
  simpa using hc

theorem Name.not_mem (name : Name) {c : Char} (h : c ∈ "<>/:=!?\"'".toList) :
    c ∉ name.text.toList :=
  fun hc => (name.of_mem hc).2 h

theorem Name.solid (name : Name) : Solid isBlank name.text.toList :=
  ⟨fun _ h => (name.of_mem (List.mem_of_mem_head? h)).1,
    fun _ h => (name.of_mem (List.mem_of_getLast? h)).1⟩

theorem splitTag?_append {content rest : List Char} (hg : '>' ∉ content) (hd : '"' ∉ content)
    (hs : '\'' ∉ content) : splitTag? none (content ++ '>' :: rest) = some (content, rest) := by
  induction content with
  | nil => rfl
  | cons c content ih =>
    obtain ⟨hgc, hg⟩ := not_or.mp (mt List.mem_cons.mpr hg)
    obtain ⟨hdc, hd⟩ := not_or.mp (mt List.mem_cons.mpr hd)
    obtain ⟨hsc, hs⟩ := not_or.mp (mt List.mem_cons.mpr hs)
    have hq : ¬(c = '"' ∨ c = '\'') := not_or.mpr ⟨Ne.symm hdc, Ne.symm hsc⟩
    rw [List.cons_append, splitTag?]
    dsimp only
    rw [if_neg (Ne.symm hgc), if_neg hq, ih hg hd hs]
    rfl

theorem readTag_append (content rest : List Char) (hg : '>' ∉ content) (hd : '"' ∉ content)
    (hs : '\'' ∉ content) : readTag (content ++ '>' :: rest) = .ok (ofTag content, rest) := by
  rw [readTag, splitTag?_append hg hd hs]

theorem readMarkup_eq_readTag {c : Char} (s : List Char) (he : c ≠ '!') (hq : c ≠ '?') :
    readMarkup (c :: s) = readTag (c :: s) := by
  unfold readMarkup
  split
  all_goals try rfl
  all_goals
    rename_i h
    have hc := (List.cons.inj h).1
    contradiction

theorem ofTag_opening (name : Name) : ofTag name.text.toList = .opening name.text.toList := by
  have hslash := name.not_mem (c := '/') (by decide)
  unfold ofTag
  split
  · rename_i h
    rw [h] at hslash
    exact absurd List.mem_cons_self hslash
  · split
    · rename_i h
      rw [← List.mem_reverse, h] at hslash
      exact absurd List.mem_cons_self hslash
    · have hn : tagName name.text.toList = name.text.toList :=
        List.takeWhile_eq_self_iff.mpr fun c hc => by rw [(name.of_mem hc).1]; rfl
      rw [hn]

theorem ofTag_closing (name : Name) : ofTag ('/' :: name.text.toList) =
    .closing name.text.toList := by
  obtain ⟨c, s, hcs⟩ := List.exists_cons_of_ne_nil name.nonempty
  have hb : name.text.toList.all isBlank = false := by
    have hc := (name.of_mem (c := c) (by rw [hcs]; exact List.mem_cons_self)).1
    rw [hcs, List.all_cons, hc]
    rfl
  have hn : closingName name.text.toList = name.text.toList := by
    unfold closingName
    rw [hb, trimEnd_of_solid name.solid]
    rfl
  exact congrArg Token.closing hn

theorem nextToken_openTag (name : Name) (rest : List Char) :
    nextToken ('<' :: (name.text.toList ++ '>' :: rest)) =
      some (.ok (.opening name.text.toList, rest)) := by
  have ht := readTag_append name.text.toList rest
    (name.not_mem (by decide)) (name.not_mem (by decide)) (name.not_mem (by decide))
  rw [ofTag_opening] at ht
  have he := name.not_mem (c := '!') (by decide)
  have hq := name.not_mem (c := '?') (by decide)
  obtain ⟨c, s, hcs⟩ := List.exists_cons_of_ne_nil name.nonempty
  rw [hcs] at ht he hq ⊢
  rw [List.cons_append] at ht ⊢
  obtain ⟨he, -⟩ := not_or.mp (mt List.mem_cons.mpr he)
  obtain ⟨hq, -⟩ := not_or.mp (mt List.mem_cons.mpr hq)
  rw [← readMarkup_eq_readTag _ (Ne.symm he) (Ne.symm hq)] at ht
  exact congrArg some ht

theorem nextToken_closeTag (name : Name) (rest : List Char) :
    nextToken ('<' :: '/' :: (name.text.toList ++ '>' :: rest)) =
      some (.ok (.closing name.text.toList, rest)) := by
  have hm : ∀ c, c ∈ "<>/:=!?\"'".toList → c ≠ '/' → c ∉ '/' :: name.text.toList :=
    fun c hc hslash => List.not_mem_cons_of_ne_of_not_mem hslash (name.not_mem hc)
  have ht := readTag_append ('/' :: name.text.toList) rest
    (hm _ (by decide) (by decide)) (hm _ (by decide) (by decide)) (hm _ (by decide) (by decide))
  rw [ofTag_closing] at ht
  exact congrArg some ht

theorem nextToken_text {text : List Char} (h : text ≠ []) (rest : List Char) :
    nextToken (writeText text ++ '<' :: rest) =
      some (.ok (.text (writeText text), '<' :: rest)) := by
  have hs := solid_writeText text
  have hl := lt_not_mem_writeText text
  have hne : ∀ c ∈ writeText text, decide (c ≠ '<') = true :=
    fun c hc => decide_eq_true fun he => hl (he ▸ hc)
  unfold nextToken
  rw [hs.dropWhile_append (by decide)]
  obtain ⟨c, s, hcs⟩ := List.exists_cons_of_ne_nil (writeText_ne_nil h)
  split
  · rename_i hnil
    rw [hcs] at hnil
    contradiction
  · rename_i hlt
    rw [hcs] at hlt hl
    exact absurd (List.cons.inj hlt).1 (fun hc => hl (hc ▸ List.mem_cons_self))
  · rw [List.takeWhile_append_of_pos hne, List.dropWhile_append_of_pos hne,
      List.takeWhile_cons_of_neg (by decide), List.dropWhile_cons_of_neg (by decide),
      List.append_nil, trimEnd_of_solid hs]

theorem localName_name (name : Name) : localName name.text.toList = name.text.toList := by
  rw [localName, Text.splitFirst_of_not_mem (name.not_mem (by decide))]

def resume (shapes : Shapes) (total : Nat) (names : List (List Char)) :
    Progress → List Char → Except Error Root
  | .finished root, _ => .ok root
  | .within elements, rest => readFrom shapes total names elements rest

variable {shapes : Shapes} {total : Nat} {names : List (List Char)} {elements outer : List Element}

theorem readFrom_eq_resume {names' : List (List Char)} {s rest : List Char} {token : Token}
    {event : Event} {progress : Progress} (ht : nextToken s = some (.ok (token, rest)))
    (he : Event.ofToken names token = .ok (event, names'))
    (ha : advance shapes elements event = .ok progress) :
    readFrom shapes total names elements s = resume shapes total names' progress rest := by
  rw [readFrom]
  split
  · rename_i h
    rw [ht] at h
    contradiction
  · rename_i h
    rw [ht] at h
    cases h
  · rename_i token' rest' h
    rw [ht] at h
    obtain ⟨rfl, rfl⟩ := Prod.mk.inj (Except.ok.inj (Option.some.inj h))
    rw [he]
    dsimp only
    rw [ha]
    cases progress <;> rfl

theorem readFrom_openTag (name : Name) (rest : List Char) :
    readFrom shapes total names elements ('<' :: (name.text.toList ++ '>' :: rest)) =
      readFrom shapes total (name.text.toList :: names)
        (⟨name.text, [], []⟩ :: elements) rest := by
  rw [readFrom_eq_resume (nextToken_openTag name rest) rfl rfl, resume, localName_name,
    Element.start, String.ofList_toList]

theorem readFrom_closeTag (name : Name) (e : Element) (rest : List Char) :
    readFrom shapes total (name.text.toList :: names) (e :: outer)
        ('<' :: '/' :: (name.text.toList ++ '>' :: rest)) =
      resume shapes total names (finish shapes e outer) rest :=
  readFrom_eq_resume (nextToken_closeTag name rest) (by rw [Event.ofToken]; exact if_pos rfl) rfl

theorem readFrom_text (text : List Char) (e : Element) (rest : List Char) :
    readFrom shapes total names (e :: outer) (writeText text ++ '<' :: rest) =
      readFrom shapes total names ({ e with text := e.text ++ text } :: outer) ('<' :: rest) := by
  by_cases h : text = []
  · subst h
    rw [List.append_nil]
    rfl
  · have ha : advance shapes (e :: outer) (.text (writeText text)) =
        .ok (.within ({ e with text := e.text ++ text } :: outer)) := by
      unfold advance
      dsimp only
      rw [if_neg (by simp), decode_writeText]
      rfl
    rw [readFrom_eq_resume (nextToken_text h rest) rfl ha, resume]

def Tree.element (shapes : Shapes) : Tree → Element
  | .leaf name text => ⟨name.text, [], text.toList⟩
  | .node name children => ⟨name.text, (builtAll shapes children).reverse, []⟩

theorem finish_element (t : Tree) (e : Element) :
    finish shapes (t.element shapes) (e :: outer) =
      .within ({ e with children := (t.name, t.built shapes) :: e.children } :: outer) := by
  cases t <;> rfl

theorem writeElement_append (name : Name) (content rest : List Char) :
    writeElement name content ++ rest = '<' :: (name.text.toList ++ '>' ::
      (content ++ '<' :: '/' :: (name.text.toList ++ '>' :: rest))) := by
  simp [writeElement]

theorem readFrom_writeAll {ts : List Tree}
    (h : ∀ t ∈ ts, ∀ names elements rest, readFrom shapes total names elements (t.write ++ rest) =
      resume shapes total names (finish shapes (t.element shapes) elements) rest)
    (e : Element) (rest : List Char) :
    readFrom shapes total names (e :: outer) (writeAll ts ++ rest) =
      readFrom shapes total names
        ({ e with children := (builtAll shapes ts).reverse ++ e.children } :: outer) rest := by
  induction ts generalizing e with
  | nil => rfl
  | cons t ts ih =>
    obtain ⟨ht, hts⟩ := List.forall_mem_cons.mp h
    rw [writeAll, List.append_assoc, ht, finish_element, resume, ih hts, builtAll,
      List.reverse_cons, List.append_assoc]
    rfl

theorem readFrom_write (t : Tree) : ∀ names elements rest,
    readFrom shapes total names elements (t.write ++ rest) =
      resume shapes total names (finish shapes (t.element shapes) elements) rest := by
  -- The children are read while their parent is open, so this is about any open elements.
  induction t with
  | leaf name text =>
    intro names elements rest
    rw [Tree.write, writeElement_append, readFrom_openTag, readFrom_text, readFrom_closeTag,
      List.nil_append]
    rfl
  | node name children ih =>
    intro names elements rest
    rw [Tree.write, writeElement_append, readFrom_openTag, readFrom_writeAll ih,
      readFrom_closeTag, List.append_nil]
    rfl

theorem write_eq_cons (t : Tree) : ∃ rest, t.write = '<' :: rest := by
  cases t with
  | leaf name text => exact ⟨_, by rw [Tree.write, writeElement]; rfl⟩
  | node name children => exact ⟨_, by rw [Tree.write, writeElement]; rfl⟩

theorem read_write_built (shapes : Shapes) (t : Tree) :
    read shapes t.write = .ok ⟨t.name, t.built shapes⟩ := by
  have hmark : dropMark t.write = t.write := by
    obtain ⟨rest, hr⟩ := write_eq_cons t
    rw [hr]
    rfl
  have hr : readFrom shapes (Text.utf8Length t.write) [] [] (t.write ++ []) = _ :=
    readFrom_write t [] [] []
  rw [List.append_nil] at hr
  unfold read
  rw [hmark]
  dsimp only
  rw [hr]
  cases t <;> rfl

/-- A written tree is read back: its document has its name and its value. -/
theorem read_write {shapes : Shapes} {t : Tree} (h : t.ListsOnce shapes) :
    read shapes t.write = .ok ⟨t.name, t.value shapes⟩ := by
  rw [read_write_built, built_eq_value h]

theorem read_write_repeated :
    read ⟨["L"], ["I"], ["B"]⟩
        "<R><L><x>1</x><y></y></L><I>-7</I><n>&#32;a&lt;b</n><n>c</n></R>".toList =
      .ok ⟨"R", .object [("I", .number (.integer (-7))), ("L", .array [.string "1", .object []]),
        ("n", .array [.string " a<b", .string "c"])]⟩ := by
  have h : (Tree.node ⟨"R", by decide, by decide⟩
      [.node ⟨"L", by decide, by decide⟩
        [.leaf ⟨"x", by decide, by decide⟩ "1", .leaf ⟨"y", by decide, by decide⟩ ""],
       .leaf ⟨"I", by decide, by decide⟩ "-7", .leaf ⟨"n", by decide, by decide⟩ " a<b",
       .leaf ⟨"n", by decide, by decide⟩ "c"]).ListsOnce ⟨["L"], ["I"], ["B"]⟩ := by decide
  exact read_write h

end CloudLookup.Markup
