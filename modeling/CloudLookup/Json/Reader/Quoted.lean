import CloudLookup.Json.Reader.Basic

/-! Reading quoted texts. -/
namespace CloudLookup.Json

open Text (Taken)

def hexValue? (c : Char) : Option Nat :=
  if c.isDigit then some (c.toNat - '0'.toNat)
  else if 'a' ≤ c ∧ c ≤ 'f' then some (c.toNat - 'a'.toNat + 10)
  else if 'A' ≤ c ∧ c ≤ 'F' then some (c.toNat - 'A'.toNat + 10)
  else none

def readHex : Reader Nat := fun s =>
  match s with
  | a :: b :: c :: d :: rest =>
    match hexValue? a, hexValue? b, hexValue? c, hexValue? d with
    | some a, some b, some c, some d =>
      .ok ⟨((a * 16 + b) * 16 + c) * 16 + d, rest, by simp only [List.length_cons]; omega⟩
    | _, _, _, _ => .error (.at .invalidEscape s 4)
  | _ =>
    if Text.utf8Length s < 4 then .error (.at .endInString [] 0)
    else .error (.at .invalidEscape s 4)

def isHighSurrogate (n : Nat) : Bool := 0xD800 ≤ n && n ≤ 0xDBFF

def isLowSurrogate (n : Nat) : Bool := 0xDC00 ≤ n && n ≤ 0xDFFF

/-- Reads the second half of a surrogate pair, with its backslash and letter. -/
def readLowSurrogate (high : Nat) : Reader Char := fun s =>
  match s with
  | [] => .error (.at .endInString [] 0)
  | '\\' :: rest =>
    match rest with
    | [] => .error (.at .endInString [] 0)
    | 'u' :: rest => do
      let low ← readHex rest
      if isLowSurrogate low.value then
        .ok ⟨Char.ofNat (0x10000 + (high - 0xD800) * 0x400 + (low.value - 0xDC00)), low.rest, by
          have := low.shorter; simp only [List.length_cons]; omega⟩
      else .error (.at .loneSurrogate low.rest 0)
    | _ => .error (.at .unfinishedSurrogatePair rest 1)
  | _ => .error (.at .unfinishedSurrogatePair s 1)

def readCodePoint (rules : Rules) : Reader Char := fun s => do
  let n ← readHex s
  if isLowSurrogate n.value || isHighSurrogate n.value then
    if rules.loneSurrogates then .ok ⟨Char.ofNat 0xFFFD, n.rest, n.shorter⟩
    else if isLowSurrogate n.value then .error (.at .loneSurrogate n.rest 0)
    else (readLowSurrogate n.value n.rest).map fun t => t.within (Nat.le_of_lt n.shorter)
  else .ok ⟨Char.ofNat n.value, n.rest, n.shorter⟩

def escaped? (c : Char) : Option Char :=
  match c with
  | '"' => some '"'
  | '\\' => some '\\'
  | '/' => some '/'
  | 'b' => some '\x08'
  | 'f' => some '\x0C'
  | 'n' => some '\n'
  | 'r' => some '\r'
  | 't' => some '\t'
  | _ => none

def readEscape (rules : Rules) : Reader Char
  | [] => .error (.at .endInString [] 0)
  | 'u' :: rest => (readCodePoint rules rest).map fun t => t.within (Nat.le_succ _)
  | c :: rest =>
    match escaped? c with
    | some x => .ok ⟨x, rest, Nat.lt_succ_self _⟩
    | none => .error (.at .invalidEscape (c :: rest) 1)

def readQuoted (rules : Rules) (s : List Char) : Except Fault (Taken (List Char) s) :=
  match s with
  | [] => .error (.at .endInString [] 0)
  | '"' :: rest => .ok ⟨[], rest, Nat.lt_succ_self _⟩
  | '\\' :: rest => do
    let e ← readEscape rules rest
    let t ← readQuoted rules e.rest
    .ok ⟨e.value :: t.value, t.rest, by
      have := e.shorter; have := t.shorter; simp only [List.length_cons]; omega⟩
  | c :: rest =>
    if c.toNat < 32 then .error (.at .controlCharacter (c :: rest) 1)
    else do
      let t ← readQuoted rules rest
      .ok ⟨c :: t.value, t.rest, Nat.lt_succ_of_lt t.shorter⟩
termination_by s.length
decreasing_by
  · have := e.shorter; simp only [List.length_cons]; omega
  · simp only [List.length_cons]; omega

end CloudLookup.Json
