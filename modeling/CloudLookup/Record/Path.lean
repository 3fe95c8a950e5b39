import CloudLookup.Text.Numeral

/-! Paths into records: names after dots, names and positions in brackets. -/
namespace CloudLookup.Record

inductive Step where
  /-- A name, which also counts as a position if it reads as one. -/
  | key (name : String)
  /-- A position, which also counts as a name. -/
  | index (n : Nat)
  deriving DecidableEq, Repr

def plainStep (reversed : List Char) : List Step :=
  if reversed.isEmpty then [] else [.key (String.ofList reversed.reverse)]

def bracketStep (reversed : List Char) : Step :=
  match Text.unsigned? reversed.reverse with
  | some n => .index n
  | none => .key (String.ofList reversed.reverse)

mutual

def plainSteps (name : List Char) : List Char → List Step
  | [] => plainStep name
  | c :: s =>
    if c = '.' then plainStep name ++ plainSteps [] s
    else if c = '[' then plainStep name ++ bracketSteps [] s
    else plainSteps (c :: name) s

/-- The steps of a text that goes on within a bracket, whose text so far is given backwards. A
bracket that is not closed belongs to a name. -/
def bracketSteps (inner : List Char) : List Char → List Step
  | [] => [.key (String.ofList ('[' :: inner.reverse))]
  | c :: s =>
    if c = ']' then bracketStep inner :: plainSteps [] s
    else bracketSteps (c :: inner) s

end

def steps (path : List Char) : List Step := plainSteps [] path

end CloudLookup.Record
