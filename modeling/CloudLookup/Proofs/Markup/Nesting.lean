import CloudLookup.Proofs.Markup.Reads

/-! Which elements are open. The names against which end tags are checked and the elements that are
being made are two stacks, which every event changes in the same way. -/
namespace CloudLookup.Markup

def Event.nest {α : Type} (entry : List Char → α) (stack : List α) : Event → List α
  | opened name => entry name :: stack
  | closed => stack.tail
  | empty _ | text _ | characterData _ | aside => stack

def Progress.elements : Progress → List Element
  | within elements => elements
  | finished _ => []

def elementName (name : List Char) : String := String.ofList (localName name)

section Stacks

variable {α β : Type} {entry : List Char → α}

theorem Event.map_nest (f : α → β) (stack : List α) (event : Event) :
    (event.nest entry stack).map f = event.nest (f ∘ entry) (stack.map f) := by
  cases event with
  | closed => exact List.map_tail
  | _ => rfl

theorem Event.length_nest {entry' : List Char → β} {stack : List α} {stack' : List β}
    (h : stack.length = stack'.length) (event : Event) :
    (event.nest entry stack).length = (event.nest entry' stack').length := by
  cases event with
  | opened name => exact congrArg (· + 1) h
  | closed => rw [nest, nest, List.length_tail, List.length_tail, h]
  | _ => exact h

end Stacks

section Events

variable {shapes : Shapes} {names names' : List (List Char)} {elements : List Element}
  {token : Token} {event : Event} {progress : Progress}

theorem names_ofToken (fits : Event.ofToken names token = .ok (event, names')) :
    names' = event.nest id names := by
  cases ofToken_eq_ok_iff.mp fits <;> rfl

theorem names_finish (e : Element) (outer : List Element) :
    (finish shapes e outer).elements.map Element.name = outer.map Element.name := by
  cases outer <;> rfl

theorem names_addText (text : List Char) (elements : List Element) :
    (addText text elements).map Element.name = elements.map Element.name := by
  cases elements <;> rfl

theorem names_advance (led : advance shapes elements event = .ok progress) :
    progress.elements.map Element.name = event.nest elementName (elements.map Element.name) := by
  cases advances led with
  | empty | closed => exact names_finish _ _
  | characterData => exact names_addText _ _
  | _ => rfl

theorem length_names (fits : Event.ofToken names token = .ok (event, names'))
    (led : advance shapes elements event = .ok progress)
    (h : names.length = elements.length) : names'.length = progress.elements.length := by
  rw [names_ofToken fits, ← List.length_map Element.name, names_advance led]
  exact event.length_nest (by rw [h, List.length_map])

/-- The names are those of the elements, in their order and as they are written. -/
def InStep (names : List (List Char)) (elements : List Element) : Prop :=
  elements.map Element.name = names.map elementName

theorem InStep.length (h : InStep names elements) : names.length = elements.length := by
  rw [← List.length_map elementName, ← h, List.length_map]

theorem InStep.after (h : InStep names elements)
    (fits : Event.ofToken names token = .ok (event, names'))
    (led : advance shapes elements event = .ok progress) : InStep names' progress.elements := by
  unfold InStep at h ⊢
  rw [names_advance led, names_ofToken fits, Event.map_nest, h]
  rfl

theorem names_of_finished {root : Root} (fits : Event.ofToken names token = .ok (event, names'))
    (led : advance shapes elements event = .ok (.finished root))
    (sync : names.length = elements.length) : names' = [] :=
  List.length_eq_zero_iff.mp (length_names fits led sync)

end Events

end CloudLookup.Markup
