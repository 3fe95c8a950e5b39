import CloudLookup.Proofs.Record.Extract
import CloudLookup.Proofs.Text.Numeral

/-! Places in records. Every place can be written as a path, which has one step for each move to the
place and leads there, unless the whole path is a name in the record. -/
namespace CloudLookup.Record

/-- A move from a value to a part of it: to an item of an array or to a member of an object. -/
inductive Move where
  | item (position : UInt64)
  | member (name : String)
  deriving DecidableEq, Repr

inductive Leads : List Move → Json → Json → Prop
  | here (value : Json) : Leads [] value value
  | item {position : UInt64} {items : List Json} {part value : Json} {moves : List Move}
    (h : items[position.toNat]? = some part) (rest : Leads moves part value) :
    Leads (.item position :: moves) (.array items) value
  | member {name : String} {members : Json.Members} {part value : Json} {moves : List Move}
    (h : members.get? name = some part) (rest : Leads moves part value) :
    Leads (.member name :: moves) (.object members) value

def IsPlain (name : String) : Prop := name ≠ "" ∧ '.' ∉ name.toList ∧ '[' ∉ name.toList

instance (name : String) : Decidable (IsPlain name) := inferInstanceAs (Decidable (_ ∧ _ ∧ _))

namespace Move

def Writable : Move → Prop
  | item _ => True
  | member name => IsPlain name ∨ ']' ∉ name.toList

instance : DecidablePred Writable
  | item _ => inferInstanceAs (Decidable True)
  | member _ => inferInstanceAs (Decidable (_ ∨ _))

def write (start : Bool) : Move → List Char
  | item position => '[' :: (Text.decimal position.toNat ++ [']'])
  | member name =>
    if IsPlain name then (if start then name.toList else '.' :: name.toList)
    else '[' :: (name.toList ++ [']'])

def step : Move → Step
  | item position => .index position.toNat
  | member name => .key name

end Move

def path : List Move → List Char
  | [] => []
  | move :: moves => move.write true ++ moves.flatMap (Move.write false)

section Steps

theorem bracketSteps_append {s : List Char} (h : ']' ∉ s) (inner rest : List Char) :
    bracketSteps inner (s ++ ']' :: rest) = bracketStep (s.reverse ++ inner) :: plainSteps [] rest := by
  induction s generalizing inner with
  | nil => rw [List.nil_append, bracketSteps, if_pos rfl, List.reverse_nil, List.nil_append]
  | cons c s ih =>
    obtain ⟨bracket, h⟩ := not_or.mp (mt List.mem_cons.mpr h)
    rw [List.cons_append, bracketSteps, if_neg (Ne.symm bracket), ih h, List.reverse_cons,
      List.append_assoc, List.singleton_append]

theorem plainSteps_bracket {s : List Char} (h : ']' ∉ s) (name rest : List Char) :
    plainSteps name ('[' :: (s ++ [']']) ++ rest) =
      plainStep name ++ bracketStep s.reverse :: plainSteps [] rest := by
  have inside := bracketSteps_append h [] rest
  rw [List.append_nil] at inside
  rw [List.cons_append, List.append_assoc, List.singleton_append, plainSteps, if_neg (by decide),
    if_pos rfl, inside]

theorem bracketStep_decimal (position : UInt64) :
    bracketStep (Text.decimal position.toNat).reverse = .index position.toNat := by
  rw [bracketStep, List.reverse_reverse, Text.unsigned?_decimal position.toNat_lt]

theorem bracketStep_of_not_plain {name : String} (h : ¬ IsPlain name) :
    bracketStep name.toList.reverse = .key name := by
  have text : Text.unsigned? name.toList = none := by
    apply Option.eq_none_iff_forall_ne_some.mpr
    intro n number
    obtain ⟨some, digits⟩ := Text.digits_of_unsigned? number
    refine h ⟨fun empty => some (by rw [empty]; rfl), fun dot => ?_, fun bracket => ?_⟩
    · exact absurd (digits _ dot) (by decide)
    · exact absurd (digits _ bracket) (by decide)
  rw [bracketStep, List.reverse_reverse, text, String.ofList_toList]

theorem plainSteps_write {moves : List Move} (writable : ∀ move ∈ moves, move.Writable)
    (name : List Char) :
    plainSteps name (moves.flatMap (Move.write false)) =
      plainStep name ++ moves.map Move.step := by
  induction moves generalizing name with
  | nil => simp [plainSteps]
  | cons move moves ih =>
    obtain ⟨h, rest⟩ := List.forall_mem_cons.mp writable
    rw [List.flatMap_cons, List.map_cons]
    -- A bracket ends the open name at once, a point leaves a new name open.
    have bracket {s : List Char} (closed : ']' ∉ s) (step : bracketStep s.reverse = move.step) :
        plainSteps name ('[' :: (s ++ [']']) ++ moves.flatMap (Move.write false)) =
          plainStep name ++ move.step :: moves.map Move.step := by
      rw [plainSteps_bracket closed, step, ih rest]
      rfl
    cases move with
    | item position =>
      exact bracket (Text.not_mem_decimal (by decide) _) (bracketStep_decimal position)
    | member member =>
      by_cases plain : IsPlain member
      · obtain ⟨present, dots, brackets⟩ := plain
        rw [Move.write, if_pos ⟨present, dots, brackets⟩, if_neg Bool.false_ne_true,
          List.cons_append, plainSteps, if_pos rfl, plainSteps_append dots brackets, List.append_nil,
          ih rest, plainStep_reverse present]
        rfl
      · rw [Move.write, if_neg plain]
        exact bracket (h.resolve_left plain) (bracketStep_of_not_plain plain)

theorem plainSteps_write_start (move : Move) (rest : List Char) :
    plainSteps [] (move.write true ++ rest) = plainSteps [] (move.write false ++ rest) := by
  cases move with
  | item position => rfl
  | member name =>
    simp only [Move.write]
    split <;> rfl

theorem steps_path {moves : List Move} (writable : ∀ move ∈ moves, move.Writable) :
    steps (path moves) = moves.map Move.step := by
  have written : steps (path moves) = plainSteps [] (moves.flatMap (Move.write false)) := by
    cases moves with
    | nil => rfl
    | cons move moves => exact plainSteps_write_start move _
  rw [written, plainSteps_write writable]
  rfl

end Steps

section Extract

variable {moves : List Move} {record value : Json}

theorem walk_of_leads (h : Leads moves record value) :
    walk (moves.map Move.step) record = some value := by
  induction h with
  | here value => rfl
  | item h _ ih => simpa [walk, Move.step, follow, h] using ih
  | member h _ ih => simpa [walk, Move.step, follow, h] using ih

/-- The path of a place leads to the value there, and it has one step for each move. -/
theorem extract_path (leads : Leads moves record value) (some_move : moves ≠ [])
    (writable : ∀ move ∈ moves, move.Writable)
    (unshadowed : record.member? (String.ofList (path moves)) = none ∨
      moves = [.member (String.ofList (path moves))]) :
    extract record (String.ofList (path moves)) = some value ∧
      steps (path moves) = moves.map Move.step := by
  have read := steps_path writable
  refine ⟨?_, read⟩
  unfold extract
  obtain unnamed | single := unshadowed
  · obtain ⟨move, rest, rfl⟩ := List.exists_cons_of_ne_nil some_move
    rw [unnamed, String.toList_ofList, read]
    exact walk_of_leads leads
  · generalize String.ofList (path moves) = name at single
    subst single
    cases leads with
    | member h rest =>
      cases rest
      rw [Json.member?, h]

theorem extract_path_through_list :
    let record := Json.object [("a", .array [.bool true, .object [("b.c", .object [("0", .null)])]])]
    extract record "a[1][b.c].0" = some .null ∧
      steps "a[1][b.c].0".toList = [.key "a", .index 1, .key "b.c", .key "0"] := by
  have leads : Leads [.member "a", .item 1, .member "b.c", .member "0"]
      (.object [("a", .array [.bool true, .object [("b.c", .object [("0", .null)])]])]) .null :=
    .member rfl (.item rfl (.member rfl (.member rfl (.here .null))))
  have writable : ∀ move ∈ [.member "a", .item 1, .member "b.c", .member "0"],
      Move.Writable move := by decide
  exact extract_path leads (by decide) writable (.inl rfl)

end Extract

end CloudLookup.Record
