import CloudLookup.Proofs.Markup.Reads

/-! Elements as reading makes them. What holds of an element at its start, and stays when a text or
the value of a child is added, holds of every element of a document that is read. -/
namespace CloudLookup.Markup

/-- An element as reading makes it: it has no content at first, then texts and the values of children
that have been made so. -/
inductive Grown (shapes : Shapes) : Element → Prop where
  | start (name : List Char) : Grown shapes (Element.start name)
  | text {e : Element} (h : Grown shapes e) (more : List Char) :
    Grown shapes { e with text := e.text ++ more }
  | child {e c : Element} (h : Grown shapes e) (hc : Grown shapes c) :
    Grown shapes { e with children := (c.name, c.value shapes) :: e.children }

def Progress.Grown (shapes : Shapes) : Progress → Prop
  | .within elements => ∀ e ∈ elements, Markup.Grown shapes e
  | .finished root => ∃ e : Element, Markup.Grown shapes e ∧ root = ⟨e.name, e.value shapes⟩

section Reading

variable {shapes : Shapes} {elements : List Element}

theorem grown_finish {e : Element} (h : Grown shapes e)
    (outer : (Progress.within elements).Grown shapes) :
    (finish shapes e elements).Grown shapes := by
  cases elements with
  | nil => exact ⟨e, h, rfl⟩
  | cons parent elements =>
    obtain ⟨hp, hs⟩ := List.forall_mem_cons.mp outer
    exact List.forall_mem_cons.mpr ⟨hp.child h, hs⟩

theorem grown_addText (text : List Char) (h : (Progress.within elements).Grown shapes) :
    (Progress.within (addText text elements)).Grown shapes := by
  cases elements with
  | nil => exact h
  | cons e elements =>
    obtain ⟨he, hs⟩ := List.forall_mem_cons.mp h
    exact List.forall_mem_cons.mpr ⟨he.text text, hs⟩

theorem grown_advance {event : Event} {progress : Progress}
    (h : (Progress.within elements).Grown shapes)
    (led : advance shapes elements event = .ok progress) : progress.Grown shapes := by
  cases advances led with
  | opened => exact List.forall_mem_cons.mpr ⟨.start _, h⟩
  | empty => exact grown_finish (.start _) h
  | closed =>
    obtain ⟨he, hs⟩ := List.forall_mem_cons.mp h
    exact grown_finish he hs
  | text | characterData => exact grown_addText _ h
  | outside | aside => exact h

theorem Reads.grown {root : Root} {names : List (List Char)} {s : List Char}
    (h : Reads shapes root names elements s) (start : (Progress.within elements).Grown shapes) :
    (Progress.finished root).Grown shapes := by
  induction h with
  | ended _ _ led => exact grown_advance start led
  | onward _ _ led _ ih => exact ih (grown_advance start led)

theorem Grown.of_mem_children {e : Element} (h : Grown shapes e) {child : String × Json}
    (hc : child ∈ e.children) : ∃ c : Element, Grown shapes c ∧ child = (c.name, c.value shapes) := by
  induction h with
  | start name => contradiction
  | text _ _ ih => exact ih hc
  | @child _ c _ made ih _ =>
    obtain rfl | hc := List.mem_cons.mp hc
    · exact ⟨c, made, rfl⟩
    · exact ih hc

end Reading

theorem exists_grown_of_read {shapes : Shapes} {document : List Char} {root : Root}
    (h : read shapes document = .ok root) :
    ∃ e : Element, Grown shapes e ∧ root = ⟨e.name, e.value shapes⟩ :=
  (reads_of_readFrom h).grown nofun

end CloudLookup.Markup
