/-! Cutting texts at a separator. -/
namespace CloudLookup.Text

def fields (separator : Char) : List Char → List (List Char)
  | [] => [[]]
  | c :: s =>
    if c = separator then [] :: fields separator s
    else
      match fields separator s with
      | [] => [[c]]
      | part :: parts => (c :: part) :: parts

def splitFirst (separator : Char) : List Char → Option (List Char × List Char)
  | [] => none
  | c :: s =>
    if c = separator then some ([], s)
    else (splitFirst separator s).map fun (before, after) => (c :: before, after)

def afterLast (separator : Char) (s : List Char) : List Char :=
  (s.reverse.takeWhile (· ≠ separator)).reverse

def strip? : List Char → List Char → Option (List Char)
  | [], s => some s
  | _ :: _, [] => none
  | x :: start, c :: s => if x = c then strip? start s else none

theorem eq_append_of_strip? {start s rest : List Char} (h : strip? start s = some rest) :
    s = start ++ rest := by
  induction start generalizing s with
  | nil => simpa [strip?] using h
  | cons x start ih =>
    cases s with
    | nil => simp [strip?] at h
    | cons c s =>
      simp only [strip?] at h
      split at h
      · rename_i hx
        simp [hx, ih h]
      · simp at h

def splitAt? (mark : List Char) : List Char → Option (List Char × List Char)
  | [] => (strip? mark []).map fun after => ([], after)
  | c :: s =>
    match strip? mark (c :: s) with
    | some after => some ([], after)
    | none => (splitAt? mark s).map fun (before, after) => (c :: before, after)

theorem eq_append_of_splitAt? {mark s before after : List Char}
    (h : splitAt? mark s = some (before, after)) : s = before ++ (mark ++ after) := by
  induction s generalizing before with
  | nil =>
    simp only [splitAt?, Option.map_eq_some_iff, Prod.mk.injEq] at h
    obtain ⟨r, hr, rfl, rfl⟩ := h
    simpa using eq_append_of_strip? hr
  | cons c s ih =>
    simp only [splitAt?] at h
    split at h
    · rename_i r hr
      simp only [Option.some.injEq, Prod.mk.injEq] at h
      obtain ⟨rfl, rfl⟩ := h
      simpa using eq_append_of_strip? hr
    · simp only [Option.map_eq_some_iff, Prod.mk.injEq, Prod.exists] at h
      obtain ⟨b, a, ht, rfl, rfl⟩ := h
      simp [ih ht]

theorem length_of_splitAt? {mark s before after : List Char}
    (h : splitAt? mark s = some (before, after)) :
    s.length = before.length + (mark.length + after.length) := by
  rw [eq_append_of_splitAt? h, List.length_append, List.length_append]

def join (separator : List Char) (parts : List (List Char)) : List Char :=
  (parts.intersperse separator).flatten

end CloudLookup.Text
