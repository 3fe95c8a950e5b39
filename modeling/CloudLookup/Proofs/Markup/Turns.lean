import CloudLookup.Proofs.Markup.Nesting
import CloudLookup.Proofs.Markup.Token
import CloudLookup.Proofs.Text.Utf8

/-! Reading turn by turn. Every turn takes something of the document, so reading ends. An end tag is
let through only where an element is open, so there is always one for it to end. -/
namespace CloudLookup.Markup

structure Stage where
  names : List (List Char)
  elements : List Element
  left : List Char

inductive Turn where
  | onward (next : Stage)
  | ended (result : Except Error Root)

/-- Takes the next event. The whole document has so many bytes. -/
def Stage.turn (shapes : Shapes) (total : Nat) (stage : Stage) : Turn :=
  match nextToken stage.left with
  | none => .ended (.error .incomplete)
  | some (.error fault) =>
    .ended (.error (.malformed (total - Text.utf8Length fault.rest) fault.flaw))
  | some (.ok (token, rest)) =>
    match Event.ofToken stage.names token with
    | .error flaw => .ended (.error (.malformed (total - Text.utf8Length rest) flaw))
    | .ok (event, names) =>
      match advance shapes stage.elements event with
      | .error e => .ended (.error e)
      | .ok (.finished root) => .ended (.ok root)
      | .ok (.within elements) => .onward ⟨names, elements, rest⟩

def Stage.readOn (shapes : Shapes) (total : Nat) (stage : Stage) : Except Error Root :=
  readFrom shapes total stage.names stage.elements stage.left

def Turn.readOn (shapes : Shapes) (total : Nat) : Turn → Except Error Root
  | onward next => next.readOn shapes total
  | ended result => result

/-- The stages that the reading of a document comes to, with the number of turns before each. -/
inductive Comes (shapes : Shapes) (document : List Char) : Nat → Stage → Prop where
  | start : Comes shapes document 0 ⟨[], [], dropMark document⟩
  | onward {n : Nat} {stage next : Stage} (h : Comes shapes document n stage)
    (led : stage.turn shapes (Text.utf8Length (dropMark document)) = .onward next) :
    Comes shapes document (n + 1) next

/-- The results that reading can have at a stage, with what it has come upon there. -/
inductive Stage.Concludes (shapes : Shapes) (document : List Char) (stage : Stage) :
    Except Error Root → Prop where
  | root {token : Token} {rest : List Char} {event : Event} {root : Root}
    (front : nextToken stage.left = some (.ok (token, rest)))
    (fits : Event.ofToken stage.names token = .ok (event, []))
    (led : advance shapes stage.elements event = .ok (.finished root)) :
    Concludes shapes document stage (.ok root)
  | broken {before rest : List Char} {flaw : Flaw} (place : document = before ++ rest)
    (front : nextToken stage.left = some (.error ⟨flaw, rest⟩)) :
    Concludes shapes document stage (.error (.malformed (Text.utf8Length before) flaw))
  | unfit {before rest name : List Char} {flaw : Flaw} (place : document = before ++ rest)
    (front : nextToken stage.left = some (.ok (.closing name, rest)))
    (other : stage.names.head? ≠ some name)
    (fault : Event.ofToken stage.names (.closing name) = .error flaw) :
    Concludes shapes document stage (.error (.malformed (Text.utf8Length before) flaw))
  | undecodable {raw rest : List Char} {flaw : TextFlaw}
    (front : nextToken stage.left = some (.ok (.text raw, rest))) (inside : stage.names ≠ [])
    (fault : decode raw = .error flaw) :
    Concludes shapes document stage (.error (.invalidText flaw))
  | incomplete (blank : ∀ c ∈ stage.left, isBlank c) :
    Concludes shapes document stage (.error .incomplete)

section Turns

variable {shapes : Shapes} {total : Nat} {stage next : Stage}

theorem Stage.readOn_eq_turn (shapes : Shapes) (total : Nat) (stage : Stage) :
    stage.readOn shapes total = (stage.turn shapes total).readOn shapes total := by
  rw [readOn, readFrom]
  split
  · rename_i front
    rw [turn, front]
    rfl
  · rename_i front
    rw [turn, front]
    rfl
  · rename_i token rest front
    rw [turn, front]
    dsimp only
    cases Event.ofToken stage.names token with
    | error flaw => rfl
    | ok next =>
      dsimp only
      cases advance shapes stage.elements next.1 with
      | error e => rfl
      | ok progress => cases progress <;> rfl

theorem Stage.of_turn (h : stage.turn shapes total = .onward next) :
    ∃ token event, nextToken stage.left = some (.ok (token, next.left)) ∧
      Event.ofToken stage.names token = .ok (event, next.names) ∧
      advance shapes stage.elements event = .ok (.within next.elements) := by
  unfold turn at h
  split at h
  · contradiction
  · contradiction
  · rename_i token rest front
    split at h
    · contradiction
    · rename_i event names fits
      split at h
      · contradiction
      · contradiction
      · rename_i elements led
        obtain rfl := Turn.onward.inj h
        exact ⟨token, event, front, fits, led⟩

theorem ofToken_eq_error {names : List (List Char)} {token : Token} {flaw : Flaw}
    (h : Event.ofToken names token = .error flaw) :
    ∃ name, token = .closing name ∧ names.head? ≠ some name := by
  cases token with
  | closing name =>
    refine ⟨name, rfl, fun innermost => ?_⟩
    obtain ⟨outer, rfl⟩ := List.head?_eq_some_iff.mp innermost
    rw [ofToken_eq_ok_iff.mpr (.closing name outer)] at h
    contradiction
  | _ => contradiction

theorem advance_eq_error {names names' : List (List Char)} {elements : List Element}
    {token : Token} {event : Event} {e : Error}
    (fits : Event.ofToken names token = .ok (event, names'))
    (sync : names.length = elements.length) (h : advance shapes elements event = .error e) :
    ∃ raw flaw, token = .text raw ∧ names ≠ [] ∧ decode raw = .error flaw ∧
      e = .invalidText flaw := by
  cases ofToken_eq_ok_iff.mp fits with
  | closing name =>
    -- An element is open under this name, so it is there to be ended.
    cases elements with
    | nil => contradiction
    | cons => contradiction
  | text raw =>
    unfold advance at h
    dsimp only at h
    split at h
    · contradiction
    · rename_i inside
      split at h
      · contradiction
      · rename_i flaw fault
        refine ⟨raw, flaw, rfl, ?_, fault, (Except.error.inj h).symm⟩
        rintro rfl
        exact inside (List.isEmpty_iff_length_eq_zero.mpr sync.symm)
  | _ => contradiction

theorem Stage.concludes {document : List Char} {result : Except Error Root}
    (sync : InStep stage.names stage.elements) (within : stage.left <:+ document)
    (h : stage.turn shapes (Text.utf8Length document) = .ended result) :
    stage.Concludes shapes document result := by
  have position {rest : List Char} (behind : rest <:+ stage.left) :
      ∃ before, document = before ++ rest ∧
        Text.utf8Length document - Text.utf8Length rest = Text.utf8Length before := by
    obtain ⟨before, rfl⟩ := behind.trans within
    exact ⟨before, rfl, by rw [Text.utf8Length_append, Nat.add_sub_cancel]⟩
  unfold turn at h
  split at h
  · rename_i front
    obtain rfl := Turn.ended.inj h
    exact .incomplete (blank_of_nextToken front)
  · rename_i fault front
    obtain rfl := Turn.ended.inj h
    obtain ⟨before, place, bytes⟩ := position (suffix_of_fault front)
    exact bytes ▸ .broken place front
  · rename_i token rest front
    split at h
    · rename_i flaw fault
      obtain rfl := Turn.ended.inj h
      obtain ⟨name, rfl, other⟩ := ofToken_eq_error fault
      obtain ⟨before, place, bytes⟩ := position (suffix_of_nextToken front)
      exact bytes ▸ .unfit place front other fault
    · rename_i event names fits
      split at h
      · rename_i e refused
        obtain rfl := Turn.ended.inj h
        obtain ⟨raw, flaw, rfl, inside, fault, rfl⟩ := advance_eq_error fits sync.length refused
        exact .undecodable front inside fault
      · rename_i root led
        obtain rfl := Turn.ended.inj h
        obtain rfl := names_of_finished fits led sync.length
        exact .root front fits led
      · contradiction

end Turns

section Documents

variable {shapes : Shapes} {document : List Char} {n : Nat} {stage : Stage}

theorem Comes.inStep (h : Comes shapes document n stage) : InStep stage.names stage.elements := by
  induction h with
  | start => rfl
  | onward _ led ih =>
    obtain ⟨token, event, -, fits, led⟩ := Stage.of_turn led
    exact ih.after fits led

theorem Comes.suffix (h : Comes shapes document n stage) : stage.left <:+ dropMark document := by
  induction h with
  | start => exact List.suffix_refl _
  | onward _ led ih =>
    obtain ⟨token, event, front, -, -⟩ := Stage.of_turn led
    exact (suffix_of_nextToken front).trans ih

theorem Comes.length_le (h : Comes shapes document n stage) :
    n + stage.left.length ≤ (dropMark document).length := by
  induction h with
  | start => exact Nat.le_of_eq (Nat.zero_add _)
  | onward _ led ih =>
    obtain ⟨token, event, front, -, -⟩ := Stage.of_turn led
    have shorter := length_of_nextToken front
    omega

theorem Comes.readOn (h : Comes shapes document n stage) :
    stage.readOn shapes (Text.utf8Length (dropMark document)) = read shapes document := by
  induction h with
  | start => rfl
  | @onward _ stage _ _ led ih => rw [← ih, stage.readOn_eq_turn, led, Turn.readOn]

theorem comes_or_ended (shapes : Shapes) (document : List Char) (n : Nat) :
    (∃ m stage result, Comes shapes document m stage ∧
      stage.turn shapes (Text.utf8Length (dropMark document)) = .ended result) ∨
    ∃ stage, Comes shapes document n stage := by
  induction n with
  | zero => exact .inr ⟨_, .start⟩
  | succ n ih =>
    obtain last | ⟨stage, come⟩ := ih
    · exact .inl last
    · cases led : stage.turn shapes (Text.utf8Length (dropMark document)) with
      | onward next => exact .inr ⟨next, come.onward led⟩
      | ended result => exact .inl ⟨n, stage, result, come, led⟩

theorem exists_last (shapes : Shapes) (document : List Char) :
    ∃ n last, Comes shapes document n last ∧
      last.turn shapes (Text.utf8Length (dropMark document)) = .ended (read shapes document) := by
  obtain ⟨n, last, result, come, ended⟩ | ⟨stage, come⟩ :=
    comes_or_ended shapes document ((dropMark document).length + 1)
  · refine ⟨n, last, come, ?_⟩
    rw [← come.readOn, Stage.readOn_eq_turn, ended, Turn.readOn]
  · have few := come.length_le
    omega

theorem Error.eq_unbalanced_of_message {e : Error}
    (h : e.message = "Unbalanced closing tag in XML response") : e = .unbalanced := by
  cases e with
  | unbalanced => rfl
  | malformed position flaw =>
    have worded : "Malformed XML at position " ++ toString position =
        "Unbalanced closing tag in XML response" := h
    simpa using congrArg String.toList worded
  | invalidText flaw =>
    have worded : "Invalid XML text" = "Unbalanced closing tag in XML response" := h
    contradiction
  | incomplete => contradiction

end Documents

/-- Reading leads on for no more turns than a document has characters, and the elements that are
being made are always the open ones. Then it ends: with the root, or because the document is
malformed at a place, a text in an element cannot be decoded, or nothing is left. -/
theorem read_ends_in_step (shapes : Shapes) (document : List Char) :
    (∀ n stage, Comes shapes document n stage →
      n + stage.left.length ≤ (dropMark document).length ∧
      stage.elements.map Element.name =
        stage.names.map fun name => String.ofList (localName name)) ∧
    (∃ n last, Comes shapes document n last ∧
      last.turn shapes (Text.utf8Length (dropMark document)) = .ended (read shapes document) ∧
      last.Concludes shapes (dropMark document) (read shapes document)) ∧
    ∀ e, read shapes document = .error e →
      e.message ≠ "Unbalanced closing tag in XML response" := by
  obtain ⟨n, last, come, ended⟩ := exists_last shapes document
  have found := last.concludes come.inStep come.suffix ended
  refine ⟨fun n stage come => ⟨come.length_le, come.inStep⟩, ⟨n, last, come, ended, found⟩, ?_⟩
  intro e he worded
  obtain rfl := Error.eq_unbalanced_of_message worded
  rw [he] at found
  cases found

/-! The end tag has the name of an open element, but not of the innermost one. -/

example : read Shapes.none "<p:a><b>x</p:a>".toList =
    .error (.malformed 15 (.mismatched "b" "p:a")) := by with_unfolding_all rfl

end CloudLookup.Markup
