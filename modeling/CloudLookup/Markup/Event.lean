import CloudLookup.Markup.Token

/-! Events: tokens whose end tags fit the elements that are open. -/
namespace CloudLookup.Markup

inductive Event where
  | opened (name : List Char)
  | empty (name : List Char)
  | closed
  | text (raw : List Char)
  | characterData (content : List Char)
  | aside
  deriving DecidableEq, Repr

def Event.ofToken (names : List (List Char)) : Token → Except Flaw (Event × List (List Char))
  | .opening name => .ok (.opened name, name :: names)
  | .empty name => .ok (.empty name, names)
  | .text raw => .ok (.text raw, names)
  | .characterData content => .ok (.characterData content, names)
  | .aside => .ok (.aside, names)
  | .closing name =>
    match names with
    | [] => .error (.unmatched (String.ofList name))
    | innermost :: outer =>
      if name = innermost then .ok (.closed, outer)
      else .error (.mismatched (String.ofList innermost) (String.ofList name))

/-- What a name is without the prefix before its first colon. -/
def localName (name : List Char) : List Char :=
  match Text.splitFirst ':' name with
  | some (_, after) => after
  | none => name

end CloudLookup.Markup
