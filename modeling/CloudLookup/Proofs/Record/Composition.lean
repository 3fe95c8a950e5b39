import CloudLookup.Proofs.Record.Place

/-! Paths made of two. A path whose brackets are closed goes on after a point or with a bracket, and
its continuation starts from the value that the path leads to. A last name in brackets is the same
name after a point, unless it is a numeral and names another member than its number does. -/
namespace CloudLookup.Record

/-- A path in which every bracket that opens is closed. -/
inductive Closed : List Char → Prop where
  | nil : Closed []
  | plain {c : Char} {path : List Char} (h : c ≠ '[') (rest : Closed path) : Closed (c :: path)
  | bracket {inner path : List Char} (h : ']' ∉ inner) (rest : Closed path) :
    Closed ('[' :: (inner ++ [']']) ++ path)

section Steps

variable {path tail : List Char}

theorem plainSteps_append_of_closed (closed : Closed path) {more : List Step}
    (ends : ∀ name, plainSteps name tail = plainStep name ++ more) (name : List Char) :
    plainSteps name (path ++ tail) = plainSteps name path ++ more := by
  -- Only a point and a bracket end the name that is open, so it differs between the cases.
  induction closed generalizing name with
  | nil => simpa [plainSteps] using ends name
  | @plain c path h _ ih =>
    simp only [List.cons_append, plainSteps, if_neg h]
    by_cases point : c = '.'
    · simp only [if_pos point, ih, List.append_assoc]
    · simp only [if_neg point, ih]
  | bracket h _ ih =>
    rw [List.append_assoc, plainSteps_bracket h, plainSteps_bracket h, ih, List.append_assoc,
      List.cons_append]

theorem steps_append_point (closed : Closed path) (tail : List Char) :
    steps (path ++ '.' :: tail) = steps path ++ steps tail := by
  apply plainSteps_append_of_closed closed
  intro name
  simp [plainSteps, steps]

theorem steps_append_bracket (closed : Closed path) (tail : List Char) :
    steps (path ++ '[' :: tail) = steps path ++ steps ('[' :: tail) := by
  apply plainSteps_append_of_closed closed
  intro name
  simp [plainSteps, steps, plainStep]

end Steps

section Walk

variable {record : Json} {path : String}

theorem walk_append (first second : List Step) (value : Json) :
    walk (first ++ second) value = (walk first value).bind (walk second) := by
  induction first generalizing value with
  | nil => rfl
  | cons step first ih =>
    simp only [List.cons_append, walk, Option.bind_assoc]
    congr 1
    funext part
    exact ih part

theorem walk_singleton (step : Step) (value : Json) : walk [step] value = follow step value := by
  simp only [walk, Option.bind_fun_some]

/-- The whole path is no name in the record, or it is written as one name anyway. -/
def Unshadowed (record : Json) (path : String) : Prop :=
  ∀ value, record.member? path = some value → steps path.toList = [.key path]

theorem Unshadowed.of_unnamed (h : record.member? path = none) : Unshadowed record path := by
  intro value named
  rw [h] at named
  contradiction

theorem extract_eq_walk (h : Unshadowed record path) (some_step : steps path.toList ≠ []) :
    extract record path = walk (steps path.toList) record := by
  unfold extract
  cases named : record.member? path with
  | none =>
    cases read : steps path.toList with
    | nil => exact absurd read some_step
    | cons step rest => rfl
  | some value =>
    rw [h value named, walk_singleton]
    cases record with
    | object members => exact named.symm
    | _ => contradiction

end Walk

/-- The steps of two paths joined by a point, or by the bracket that starts the second one, are
those of both. The joined path leads to where the second one leads from the place of the first. -/
theorem extract_of_joined (first second : String) (closed : Closed first.toList) :
    steps (first ++ "." ++ second).toList = steps first.toList ++ steps second.toList ∧
      (second.toList.head? = some '[' →
        steps (first ++ second).toList = steps first.toList ++ steps second.toList) ∧
      ∀ record : Json, steps first.toList ≠ [] → steps second.toList ≠ [] →
        record.member? (first ++ "." ++ second) = none → Unshadowed record first →
        (∀ value, extract record first = some value → Unshadowed value second) →
        extract record (first ++ "." ++ second) =
          (extract record first).bind fun value => extract value second := by
  have joined : (first ++ "." ++ second).toList = first.toList ++ '.' :: second.toList := by simp
  have read := steps_append_point closed second.toList
  rw [← joined] at read
  refine ⟨read, ?_, ?_⟩
  · intro bracket
    cases starts : second.toList with
    | nil =>
      rw [starts] at bracket
      contradiction
    | cons c tail =>
      rw [starts] at bracket
      obtain rfl : c = '[' := Option.some.inj bracket
      rw [String.toList_append, starts]
      exact steps_append_bracket closed tail
  · intro record some_first some_second unnamed shown later
    have some_step : steps (first ++ "." ++ second).toList ≠ [] := by
      rw [read]
      exact List.append_ne_nil_of_left_ne_nil some_first _
    rw [extract_eq_walk (.of_unnamed unnamed) some_step, read, walk_append,
      ← extract_eq_walk shown some_first]
    cases place : extract record first with
    | none => rfl
    | some value => exact (extract_eq_walk (later value place) some_second).symm

theorem extract_of_joined_through_list :
    let record := Json.object [("a", .array [.object [("b", .object [("c.d", .bool true)])]])]
    extract record ("a[0]" ++ "." ++ "b[c.d]") =
      (extract record "a[0]").bind fun value => extract value "b[c.d]" := by
  intro record
  have closed : Closed "a[0]".toList :=
    .plain (by decide) (@Closed.bracket ['0'] [] (by decide) .nil)
  have place : extract record "a[0]" = some (.object [("b", .object [("c.d", .bool true)])]) := rfl
  apply (extract_of_joined "a[0]" "b[c.d]" closed).2.2 record (by decide) (by decide) rfl
    (.of_unnamed rfl)
  intro value found
  cases place.symm.trans found
  exact .of_unnamed rfl

section Bracket

variable {name : String}

theorem follow_bracketStep_iff (value : Json) :
    follow (bracketStep name.toList.reverse) value = follow (.key name) value ↔
      ∀ n members, Text.unsigned? name.toList = some n → value = .object members →
        Json.Members.get? members (String.ofList (Text.decimal n)) =
          Json.Members.get? members name := by
  rw [bracketStep, List.reverse_reverse]
  cases number : Text.unsigned? name.toList with
  | none => simp
  | some n => cases value <;> simp [follow, number]

theorem steps_bracket (closed : ']' ∉ name.toList) :
    steps ('[' :: (name.toList ++ [']'])) = [bracketStep name.toList.reverse] := by
  have read := plainSteps_bracket closed [] []
  rwa [List.append_nil] at read

/-- A last name in brackets leads where it leads after a point, unless it is a numeral, the path
before it leads to an object, and the members of the name and of its number differ. -/
theorem extract_bracket_eq_point_iff {record : Json} (path name : String)
    (closed : Closed path.toList) (present : name ≠ "") (points : '.' ∉ name.toList)
    (opens : '[' ∉ name.toList) (closes : ']' ∉ name.toList)
    (unnamed_point : record.member? (path ++ "." ++ name) = none)
    (unnamed_bracket : record.member? (path ++ "[" ++ name ++ "]") = none) :
    extract record (path ++ "[" ++ name ++ "]") = extract record (path ++ "." ++ name) ↔
      ∀ n members, Text.unsigned? name.toList = some n →
        walk (steps path.toList) record = some (.object members) →
        Json.Members.get? members (String.ofList (Text.decimal n)) =
          Json.Members.get? members name := by
  have point : steps (path ++ "." ++ name).toList = steps path.toList ++ [.key name] := by
    rw [← steps_of_plain points opens present, ← steps_append_point closed]
    simp
  have bracket : steps (path ++ "[" ++ name ++ "]").toList =
      steps path.toList ++ [bracketStep name.toList.reverse] := by
    rw [← steps_bracket closes, ← steps_append_bracket closed]
    simp
  have some_step (step : Step) : steps path.toList ++ [step] ≠ [] := by simp
  rw [extract_eq_walk (.of_unnamed unnamed_bracket) (bracket ▸ some_step _),
    extract_eq_walk (.of_unnamed unnamed_point) (point ▸ some_step _), bracket, point, walk_append,
    walk_append]
  cases place : walk (steps path.toList) record with
  | none => simp
  | some value =>
    simp only [Option.bind_some, walk_singleton, follow_bracketStep_iff, Option.some.injEq]

theorem extract_bracket_eq_point_in_list :
    let record := Json.object [("a", .object [("b", .array [.null, .bool true])])]
    extract record ("a.b" ++ "[" ++ "01" ++ "]") = extract record ("a.b" ++ "." ++ "01") := by
  intro record
  have closed : Closed "a.b".toList :=
    .plain (by decide) (.plain (by decide) (.plain (by decide) .nil))
  have list : walk (steps "a.b".toList) record = some (.array [.null, .bool true]) := rfl
  apply (extract_bracket_eq_point_iff "a.b" "01" closed (by decide) (by decide) (by decide)
    (by decide) rfl rfl).mpr
  intro n members _ place
  cases list.symm.trans place

theorem extract_bracket_of_leading_zeros :
    let record := Json.object [("a", .object [("7", .bool true)])]
    Closed "a".toList ∧ "007" ≠ "" ∧
      '.' ∉ "007".toList ∧ '[' ∉ "007".toList ∧ ']' ∉ "007".toList ∧
      record.member? ("a" ++ "." ++ "007") = none ∧
      record.member? ("a" ++ "[" ++ "007" ++ "]") = none ∧
      extract record ("a" ++ "[" ++ "007" ++ "]") = some (.bool true) ∧
      extract record ("a" ++ "." ++ "007") = none :=
  ⟨.plain (by decide) .nil, by decide, by decide, by decide, by decide, rfl, rfl, rfl, rfl⟩

end Bracket

end CloudLookup.Record
