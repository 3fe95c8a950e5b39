import CloudLookup.Proofs.Markup.Tree
import CloudLookup.Proofs.Text.Trim

/-! Written texts: they denote the texts they were written for, and neither tags nor the trimming
between tags cut into them. -/
namespace CloudLookup.Markup

open Text (Solid)

/-- A text with entities denotes a text, wherever it stands. -/
def Denotes (s text : List Char) : Prop := ∀ total place, decodeFrom total place s = .ok text

theorem Denotes.nil : Denotes [] [] := by
  intro total place
  rw [decodeFrom]

theorem Denotes.char {c : Char} {s text : List Char} (hc : c ≠ '&') (h : Denotes s text) :
    Denotes (c :: s) (c :: text) := by
  intro total place
  rw [decodeFrom, if_neg hc, h]
  rfl

theorem entityName?_append {name rest : List Char} (hs : ';' ∉ name) (ha : '&' ∉ name) :
    entityName? (name ++ ';' :: rest) = some (name, rest) := by
  induction name with
  | nil => rfl
  | cons c name ih =>
    have hcs := (List.ne_of_not_mem_cons hs).symm
    have hca := (List.ne_of_not_mem_cons ha).symm
    have hrest := ih (List.not_mem_of_not_mem_cons hs) (List.not_mem_of_not_mem_cons ha)
    rw [List.cons_append, entityName?, if_neg hcs, if_neg hca, hrest]
    rfl

theorem Denotes.entity (name : List Char) {s text : List Char} {c : Char}
    (hs : ';' ∉ name) (ha : '&' ∉ name) (hc : ∀ place, entity place name = .ok c)
    (h : Denotes s text) : Denotes ('&' :: (name ++ ';' :: s)) (c :: text) := by
  intro total place
  rw [decodeFrom, if_pos rfl]
  split
  · rename_i hname
    rw [entityName?_append hs ha] at hname
    contradiction
  · rename_i name' rest hname
    rw [entityName?_append hs ha] at hname
    obtain ⟨rfl, rfl⟩ := Prod.mk.inj (Option.some.inj hname)
    rw [hc, h]
    rfl

theorem eq_of_isBlank {c : Char} (h : isBlank c) : c = ' ' ∨ c = '\t' ∨ c = '\r' ∨ c = '\n' := by
  simpa [isBlank, or_assoc] using h

theorem denotes_writeNumbered {c : Char} {s text : List Char} (hc : isBlank c)
    (h : Denotes s text) : Denotes (writeNumbered c ++ s) (c :: text) := by
  have hs : writeNumbered c ++ s = '&' :: (('#' :: Text.decimal c.toNat) ++ ';' :: s) := by
    simp [writeNumbered]
  rw [hs]
  obtain rfl | rfl | rfl | rfl := eq_of_isBlank hc
  all_goals exact Denotes.entity _ (by decide) (by decide) (fun _ => rfl) h

theorem denotes_writeChar (c : Char) {s text : List Char} (h : Denotes s text) :
    Denotes (writeChar c ++ s) (c :: text) := by
  unfold writeChar
  split
  · exact Denotes.entity "amp".toList (by decide) (by decide) (fun _ => rfl) h
  · exact Denotes.entity "lt".toList (by decide) (by decide) (fun _ => rfl) h
  · exact Denotes.entity "gt".toList (by decide) (by decide) (fun _ => rfl) h
  · rename_i ha _ _
    exact Denotes.char ha h

theorem denotes_flatMap {write : Char → List Char} {l : List Char}
    (hw : ∀ c ∈ l, ∀ s text, Denotes s text → Denotes (write c ++ s) (c :: text))
    {s text : List Char} (h : Denotes s text) : Denotes (l.flatMap write ++ s) (l ++ text) := by
  induction l with
  | nil => exact h
  | cons c l ih =>
    obtain ⟨hc, hl⟩ := List.forall_mem_cons.mp hw
    rw [List.flatMap_cons, List.append_assoc]
    exact hc _ _ (ih hl)

theorem append_blanks (text : List Char) :
    ∃ after, text = text.takeWhile isBlank ++ Text.trimOf isBlank text ++ after ∧
      after.all isBlank ∧
      writeText text = (text.takeWhile isBlank).flatMap writeNumbered ++
        (Text.trimOf isBlank text).flatMap writeChar ++ after.flatMap writeNumbered := by
  have hs := List.takeWhile_append_dropWhile (p := isBlank) (l := text)
  have hr := List.takeWhile_append_dropWhile (p := isBlank) (l := (text.dropWhile isBlank).reverse)
  have ht : text = text.takeWhile isBlank ++ Text.trimOf isBlank text ++
      ((text.dropWhile isBlank).reverse.takeWhile isBlank).reverse := by
    unfold Text.trimOf
    rw [List.append_assoc, ← List.reverse_append, hr, List.reverse_reverse, hs]
  refine ⟨_, ht, by rw [List.all_reverse]; exact List.all_takeWhile, ?_⟩
  have hd := congrArg (List.drop (text.takeWhile isBlank ++ Text.trimOf isBlank text).length) ht
  rw [List.drop_left] at hd
  rw [← hd]
  rfl

theorem denotes_writeText (text : List Char) : Denotes (writeText text) text := by
  obtain ⟨after, ht, ha, hw⟩ := append_blanks text
  have number : ∀ l : List Char, l.all isBlank → ∀ c ∈ l, ∀ s t, Denotes s t →
      Denotes (writeNumbered c ++ s) (c :: t) :=
    fun l hl c hc _ _ => denotes_writeNumbered (List.all_eq_true.mp hl c hc)
  have hafter := denotes_flatMap (number after ha) Denotes.nil
  rw [List.append_nil, List.append_nil] at hafter
  have hall : Denotes (writeText text)
      (text.takeWhile isBlank ++ Text.trimOf isBlank text ++ after) := by
    rw [hw, List.append_assoc, List.append_assoc]
    apply denotes_flatMap (number _ List.all_takeWhile)
    exact denotes_flatMap (fun c _ _ _ => denotes_writeChar c) hafter
  rwa [← ht] at hall

theorem decode_writeText (text : List Char) : decode (writeText text) = .ok text :=
  denotes_writeText text _ _

theorem lt_not_mem_writeChar (c : Char) : '<' ∉ writeChar c := by
  unfold writeChar
  split
  · decide
  · decide
  · decide
  · rename_i hl _
    simpa using Ne.symm hl

theorem lt_not_mem_writeNumbered {c : Char} (hc : isBlank c) : '<' ∉ writeNumbered c := by
  obtain rfl | rfl | rfl | rfl := eq_of_isBlank hc
  all_goals decide

theorem lt_not_mem_writeText (text : List Char) : '<' ∉ writeText text := by
  obtain ⟨after, -, ha, hw⟩ := append_blanks text
  rw [hw, List.mem_append, List.mem_append, List.mem_flatMap, List.mem_flatMap, List.mem_flatMap]
  rintro ((⟨c, hc, h⟩ | ⟨c, -, h⟩) | ⟨c, hc, h⟩)
  · exact lt_not_mem_writeNumbered (List.all_eq_true.mp List.all_takeWhile c hc) h
  · exact lt_not_mem_writeChar c h
  · exact lt_not_mem_writeNumbered (List.all_eq_true.mp ha c hc) h

theorem solid_numbered (l : List Char) : Solid isBlank (l.flatMap writeNumbered) := by
  induction l with
  | nil => exact Solid.nil
  | cons c l ih => exact (Solid.of_cons_append (by decide) (by decide)).append ih

theorem writeChar_ne_nil (c : Char) : writeChar c ≠ [] := by
  unfold writeChar
  split
  all_goals exact List.cons_ne_nil _ _

section Solid

-- Neither end of a written entity is dropped.
variable {drop : Char → Bool} (ha : drop '&' = false) (hs : drop ';' = false)
include ha hs

theorem solid_writeChar {c : Char} (hc : drop c = false) : Solid drop (writeChar c) := by
  unfold writeChar
  split
  · exact Solid.of_cons_append (c := '&') (s := "amp".toList) (d := ';') ha hs
  · exact Solid.of_cons_append (c := '&') (s := "lt".toList) (d := ';') ha hs
  · exact Solid.of_cons_append (c := '&') (s := "gt".toList) (d := ';') ha hs
  · exact ⟨by simpa using hc, by simpa using hc⟩

theorem solid_content {l : List Char} (h : Solid drop l) : Solid drop (l.flatMap writeChar) := by
  constructor
  · cases l with
    | nil => exact Solid.nil.head
    | cons c l =>
      obtain ⟨d, t, hd⟩ := List.exists_cons_of_ne_nil (writeChar_ne_nil c)
      have hw := (solid_writeChar ha hs (h.head c rfl)).head
      rw [hd] at hw
      rw [List.flatMap_cons, hd]
      exact hw
  · obtain rfl | ⟨l, c, rfl⟩ := List.eq_nil_or_concat l
    · exact Solid.nil.last
    · rw [List.concat_eq_append] at h ⊢
      rw [List.flatMap_append, List.flatMap_singleton,
        List.getLast?_append, List.getLast?_eq_some_getLast (writeChar_ne_nil c), Option.some_or,
        ← List.getLast?_eq_some_getLast]
      exact (solid_writeChar ha hs (h.last c List.getLast?_concat)).last

end Solid

theorem solid_writeText (text : List Char) : Solid isBlank (writeText text) := by
  have hc := solid_content rfl rfl (Text.solid_trimOf isBlank text)
  exact ((solid_numbered _).append hc).append (solid_numbered _)

theorem writeText_of_solid {text : List Char} (h : Solid isBlank text) :
    writeText text = text.flatMap writeChar := by
  rw [writeText, h.takeWhile_eq, h.trimOf_eq, List.nil_append, List.drop_length]
  simp

theorem writeText_ne_nil {text : List Char} (h : text ≠ []) : writeText text ≠ [] := by
  intro hw
  have hd := decode_writeText text
  rw [hw, decode, decodeFrom] at hd
  exact h (Except.ok.inj hd).symm

theorem trimEnd_of_solid {s : List Char} (h : Solid isBlank s) : trimEnd s = s := by
  rw [trimEnd, h.reverse.dropWhile_eq, List.reverse_reverse]

end CloudLookup.Markup
