import CloudLookup.Markup.Element
import CloudLookup.Markup.Entity
import CloudLookup.Markup.Event

/-! The value of a document: events are taken until the root element ends. -/
namespace CloudLookup.Markup

structure Root where
  name : String
  value : Json

inductive Progress where
  /-- Elements are open, the innermost first, or the root has not begun. -/
  | within (elements : List Element)
  | finished (root : Root)

def finish (shapes : Shapes) (e : Element) : List Element → Progress
  | [] => .finished ⟨e.name, e.value shapes⟩
  | parent :: outer =>
    .within ({ parent with children := (e.name, e.value shapes) :: parent.children } :: outer)

def addText (text : List Char) : List Element → List Element
  | [] => []
  | e :: outer => { e with text := e.text ++ text } :: outer

/-- Goes on by one event. Text outside the root is not looked at. -/
def advance (shapes : Shapes) (elements : List Element) : Event → Except Error Progress
  | .opened name => .ok (.within (Element.start (localName name) :: elements))
  | .empty name => .ok (finish shapes (Element.start (localName name)) elements)
  | .closed =>
    match elements with
    | [] => .error .unbalanced
    | e :: outer => .ok (finish shapes e outer)
  | .text raw =>
    if elements.isEmpty then .ok (.within elements)
    else
      match decode raw with
      | .ok text => .ok (.within (addText text elements))
      | .error flaw => .error (.invalidText flaw)
  | .characterData content => .ok (.within (addText content elements))
  | .aside => .ok (.within elements)

/-- Reads on. The whole document has so many bytes; the names are those of the open elements as they
are written. -/
def readFrom (shapes : Shapes) (total : Nat) (names : List (List Char)) (elements : List Element)
    (s : List Char) : Except Error Root :=
  match _h : nextToken s with
  | none => .error .incomplete
  | some (.error fault) => .error (.malformed (total - Text.utf8Length fault.rest) fault.flaw)
  | some (.ok (token, rest)) =>
    match Event.ofToken names token with
    | .error flaw => .error (.malformed (total - Text.utf8Length rest) flaw)
    | .ok (event, names') =>
      match advance shapes elements event with
      | .error e => .error e
      | .ok (.finished root) => .ok root
      | .ok (.within elements') => readFrom shapes total names' elements' rest
termination_by s.length
decreasing_by exact length_of_nextToken _h

def dropMark : List Char → List Char
  | '\uFEFF' :: s => s
  | s => s

/-- The root element of a document. What follows it is not looked at. -/
def read (shapes : Shapes) (document : List Char) : Except Error Root :=
  let s := dropMark document
  readFrom shapes (Text.utf8Length s) [] [] s

end CloudLookup.Markup
