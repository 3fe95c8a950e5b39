import CloudLookup.Markup.Flaw
import CloudLookup.Text.Utf8

/-! Entities: characters written by name or number within a text. -/
namespace CloudLookup.Markup

def named? (name : List Char) : Option Char :=
  match String.ofList name with
  | "lt" => some '<'
  | "gt" => some '>'
  | "amp" => some '&'
  | "apos" => some '\''
  | "quot" => some '"'
  | _ => none

def digitBelow? (base : Nat) (c : Char) : Option Nat :=
  let value? :=
    if '0' ≤ c ∧ c ≤ '9' then some (c.toNat - '0'.toNat)
    else if 'a' ≤ c ∧ c ≤ 'f' then some (c.toNat - 'a'.toNat + 10)
    else if 'A' ≤ c ∧ c ≤ 'F' then some (c.toNat - 'A'.toNat + 10)
    else none
  value?.filter (· < base)

def appendDigits (base n : Nat) : List Char → Except CharFlaw Nat
  | [] => .ok n
  | c :: s =>
    match digitBelow? base c with
    | none => .error .invalidDigit
    | some d =>
      if base * n + d < 0x100000000 then appendDigits base (base * n + d) s else .error .tooLarge

def codePoint (base : Nat) : List Char → Except CharFlaw Nat
  | [] => .error .noDigits
  | c :: s => if c = '+' ∨ c = '-' then .error .sign else appendDigits base 0 (c :: s)

def numbered (text : List Char) : Except CharFlaw Char := do
  let n ← match text with
    | 'x' :: digits => codePoint 16 digits
    | digits => codePoint 10 digits
  if n = 0 then .error .nul
  else if n.isValidChar then .ok (Char.ofNat n)
  else .error (.noCharacter n)

def entity (first : Nat) (name : List Char) : Except TextFlaw Char :=
  match name with
  | '#' :: number => (numbered number).mapError .badReference
  | _ =>
    match named? name with
    | some c => .ok c
    | none => .error (.unknownEntity first (first + Text.utf8Length name) (String.ofList name))

/-- The name after an ampersand and the text after its semicolon, which comes before the next
ampersand. -/
def entityName? : List Char → Option (List Char × List Char)
  | [] => none
  | c :: s =>
    if c = ';' then some ([], s)
    else if c = '&' then none
    else (entityName? s).map fun (name, rest) => (c :: name, rest)

theorem length_of_entityName? {s name rest : List Char} (h : entityName? s = some (name, rest)) :
    s.length = name.length + 1 + rest.length := by
  induction s generalizing name with
  | nil => simp [entityName?] at h
  | cons c s ih =>
    simp only [entityName?] at h
    split at h
    · simp only [Option.some.injEq, Prod.mk.injEq] at h
      simp [← h.1, ← h.2]; omega
    · split at h
      · simp at h
      · obtain ⟨⟨tail, r⟩, ht, he⟩ := Option.map_eq_some_iff.1 h
        simp only [Prod.mk.injEq] at he
        obtain ⟨rfl, rfl⟩ := he
        have := ih ht
        simp only [List.length_cons]; omega

/-- The text that a text with entities denotes, from a place on. All of it has a given number of
bytes. -/
def decodeFrom (total place : Nat) (s : List Char) : Except TextFlaw (List Char) :=
  match s with
  | [] => .ok []
  | c :: s =>
    if c = '&' then
      match h : entityName? s with
      | none => .error (.openEntity place total)
      | some (name, rest) => do
        let x ← entity (place + 1) name
        let text ← decodeFrom total (place + 2 + Text.utf8Length name) rest
        .ok (x :: text)
    else do
      let text ← decodeFrom total (place + c.utf8Size) s
      .ok (c :: text)
termination_by s.length
decreasing_by
  · have := length_of_entityName? h; simp only [List.length_cons]; omega
  · simp only [List.length_cons]; omega

def decode (s : List Char) : Except TextFlaw (List Char) := decodeFrom (Text.utf8Length s) 0 s

end CloudLookup.Markup
