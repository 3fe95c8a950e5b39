import CloudLookup.Json.Reader.Number
import CloudLookup.Json.Reader.Quoted

/-! Reading values: arrays and objects nest to a given depth. -/
namespace CloudLookup.Json

open Text (Rest Taken)

/-- What follows within an array or object: its end, or the text of its next entry. -/
inductive Next (s : List Char) where
  | closed (rest : List Char) (shorter : rest.length < s.length)
  | entry (text : List Char) (le : text.length ≤ s.length)

/-- Finds the next item of an array. All items but the first follow a comma. -/
def nextItem (first : Bool) (s : List Char) : Except Fault (Next s) :=
  have le := length_skipBlank_le s
  match h : skipBlank s with
  | [] => .error (.at .endInArray [] 0)
  | c :: rest =>
    have lt : rest.length < s.length := by simp only [h, List.length_cons] at le; omega
    if c = ']' then .ok (.closed rest lt)
    else if first then .ok (.entry (c :: rest) (by simp only [← h]; exact le))
    else if c = ',' then
      have le' := length_skipBlank_le rest
      match h' : skipBlank rest with
      | [] => .error (.at .endInValue [] 0)
      | d :: rest' =>
        if d = ']' then .error (.at .trailingComma (d :: rest') 1)
        else .ok (.entry (d :: rest') (by simp only [← h']; omega))
    else .error (.at .arraySeparatorMissing (c :: rest) 1)

def nextMember (first : Bool) (s : List Char) : Except Fault (Next s) :=
  have le := length_skipBlank_le s
  match h : skipBlank s with
  | [] => .error (.at .endInObject [] 0)
  | c :: rest =>
    have lt : rest.length < s.length := by simp only [h, List.length_cons] at le; omega
    if c = '\x7d' then .ok (.closed rest lt)
    else if first then
      if c = '"' then .ok (.entry rest (Nat.le_of_lt lt))
      else .error (.at .nameMissing (c :: rest) 1)
    else if c = ',' then
      have le' := length_skipBlank_le rest
      match h' : skipBlank rest with
      | [] => .error (.at .endInValue [] 0)
      | d :: rest' =>
        if d = '"' then .ok (.entry rest' (by simp only [h', List.length_cons] at le'; omega))
        else if d = '\x7d' then .error (.at .trailingComma (d :: rest') 1)
        else .error (.at .nameMissing (d :: rest') 1)
    else .error (.at .objectSeparatorMissing (c :: rest) 1)

def readColon (s : List Char) : Except Fault (Rest s) :=
  have le := length_skipBlank_le s
  match h : skipBlank s with
  | [] => .error (.at .endInObject [] 0)
  | c :: rest =>
    if c = ':' then .ok ⟨rest, by simp only [h, List.length_cons] at le; omega⟩
    else .error (.at .colonMissing (c :: rest) 1)

def readItems (item : Reader α) (first : Bool) (s : List Char) : Except Fault (Taken (List α) s) :=
  match nextItem first s with
  | .error fault => .error fault
  | .ok (.closed rest shorter) => .ok ⟨[], rest, shorter⟩
  | .ok (.entry text le) => do
    let t ← item text
    let ts ← readItems item false t.rest
    .ok ⟨t.value :: ts.value, ts.rest, by have := t.shorter; have := ts.shorter; omega⟩
termination_by s.length
decreasing_by have := t.shorter; omega

/-- Reads the members of an object up to its end, in order. The rules are those for names; how a
value is read may depend on its name. -/
def readMembers (rules : Rules) (value : String → Reader α) (first : Bool) (s : List Char) :
    Except Fault (Taken (List (String × α)) s) :=
  match nextMember first s with
  | .error fault => .error fault
  | .ok (.closed rest shorter) => .ok ⟨[], rest, shorter⟩
  | .ok (.entry text le) => do
    let name ← readQuoted rules text
    let ⟨r, hr⟩ ← readColon name.rest
    let t ← value (String.ofList name.value) r
    let ts ← readMembers rules value false t.rest
    .ok ⟨(String.ofList name.value, t.value) :: ts.value, ts.rest, by
      have := name.shorter; have := t.shorter; have := ts.shorter; omega⟩
termination_by s.length
decreasing_by have := name.shorter; have := t.shorter; omega

/-- Reads a value. The items of arrays and the values of members are read by `inner`; without it
there may be none. -/
def readValueWith (rules : Rules) (inner : Option (Reader Json)) : Reader Json := fun s =>
  have le := length_skipBlank_le s
  match h : skipBlank s with
  | [] => .error (.at .endInValue [] 0)
  | c :: rest =>
    have lt : rest.length < s.length := by simp only [h, List.length_cons] at le; omega
    let literal (value : Json) (letters : List Char) : Except Fault (Taken Json s) :=
      (readLetters letters rest).map fun ⟨r, h⟩ => ⟨value, r, Nat.lt_of_le_of_lt h lt⟩
    if c = 'n' then literal .null ['u', 'l', 'l']
    else if c = 't' then literal (.bool true) ['r', 'u', 'e']
    else if c = 'f' then literal (.bool false) ['a', 'l', 's', 'e']
    else if c = '"' then
      (readQuoted rules rest).map fun t =>
        (t.map fun text => Json.string (String.ofList text)).within (Nat.le_of_lt lt)
    else if c = '-' then
      (readNumber rules true rest).map fun t => (t.map Json.number).within (Nat.le_of_lt lt)
    else if c.isDigit then
      (readNumber rules false (c :: rest)).map fun t =>
        (t.map Json.number).within (by simp only [← h]; exact le)
    else if c = '[' ∨ c = '\x7b' then
      match inner with
      | none => .error (.at .tooDeep (c :: rest) 1)
      | some read =>
        if c = '[' then
          (readItems read true rest).map fun t => (t.map Json.array).within (Nat.le_of_lt lt)
        else
          (readMembers rules (fun _ => read) true rest).map fun t =>
            (t.map fun members => Json.object (Members.ofList members)).within (Nat.le_of_lt lt)
    else .error (.at .valueMissing (c :: rest) 1)

/-- Reads a value whose arrays and objects nest at most so deep. -/
def readValue (rules : Rules) : Nat → Reader Json
  | 0 => readValueWith rules none
  | depth + 1 => readValueWith rules (some (readValue rules depth))

def readAll (reader : Reader α) (s : List Char) : Except Fault α := do
  let t ← reader s
  match skipBlank t.rest with
  | [] => .ok t.value
  | rest => .error (.at .trailingCharacters rest 1)

def maxDepth : Nat := 127

def parse (text : List Char) : Except Fault Json := readAll (readValue strict maxDepth) text

end CloudLookup.Json
