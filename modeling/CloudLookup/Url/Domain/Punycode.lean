/-! Punycode: texts written in letters, digits and hyphens. -/
namespace CloudLookup.Url.Domain

def punycodeDigit (n : Nat) : Char :=
  if n < 26 then Char.ofNat ('a'.toNat + n) else Char.ofNat ('0'.toNat + (n - 26))

def punycodeValue? (c : Char) : Option Nat :=
  if c.isLower then some (c.toNat - 'a'.toNat)
  else if c.isDigit then some (c.toNat - '0'.toNat + 26)
  else none

/-- The least value of a digit that is not the last, at a place that is a multiple of 36. -/
def threshold (bias place : Nat) : Nat := max 1 (min 26 (place - bias))

theorem threshold_pos (bias place : Nat) : 0 < threshold bias place := by
  simp only [threshold]
  omega

def adaptDelta (delta place : Nat) : Nat :=
  if 455 < delta then adaptDelta (delta / 35) (place + 36) else place + 36 * delta / (delta + 38)
termination_by delta
decreasing_by omega

def adaptBias (delta count : Nat) (isFirst : Bool) : Nat :=
  let delta := if isFirst then delta / 700 else delta / 2
  adaptDelta (delta + delta / count) 0

def deltaDigits (bias place delta : Nat) : List Char :=
  let least := threshold bias place
  if delta < least then [punycodeDigit delta]
  else
    let more := delta - least
    punycodeDigit (least + more % (36 - least)) ::
      deltaDigits bias (place + 36) (more / (36 - least))
termination_by delta
decreasing_by
  have := threshold_pos bias place
  have := Nat.div_le_self (delta - threshold bias place) (36 - threshold bias place)
  omega

structure Writer where
  code : Nat
  delta : Nat
  bias : Nat
  count : Nat

/-- Writes the occurrences of one code. What is passed before each counts for the difference. -/
def writeCode (basicCount : Nat) (w : Writer) : List Char → Writer × List Char
  | [] => (w, [])
  | c :: s =>
    if c.toNat < w.code then writeCode basicCount { w with delta := w.delta + 1 } s
    else if c.toNat = w.code then
      let bias := adaptBias w.delta (w.count + 1) (w.count = basicCount)
      let (after, digits) := writeCode basicCount ⟨w.code, 0, bias, w.count + 1⟩ s
      (after, deltaDigits w.bias 36 w.delta ++ digits)
    else writeCode basicCount w s

def writeCodes (s : List Char) (basicCount : Nat) : Writer → List Nat → List Char
  | _, [] => []
  | w, code :: codes =>
    let delta := w.delta + (code - w.code) * (w.count + 1)
    let (after, digits) := writeCode basicCount { w with code, delta } s
    let next := { after with code := code + 1, delta := after.delta + 1 }
    digits ++ writeCodes s basicCount next codes

/-- The Punycode of a text: its ASCII, and the rest by differences of codes and places. -/
def punycode (s : List Char) : List Char :=
  let basic := s.filter fun c => c.toNat < 128
  let codes := ((s.filter fun c => 128 ≤ c.toNat).map Char.toNat).mergeSort.eraseDups
  let front := if basic.isEmpty then [] else basic ++ ['-']
  front ++ writeCodes s basic.length ⟨128, 0, 72, basic.length⟩ codes

def bounded? (n : Nat) : Option Nat := if n < 0x100000000 then some n else none

def readDelta? (bias place weight delta : Nat) : List Char → Option (Nat × List Char)
  | [] => none
  | c :: s => do
    let digit ← punycodeValue? c
    let delta ← bounded? (delta + digit * weight)
    if digit < threshold bias place then some (delta, s)
    else
      let weight ← bounded? (weight * (36 - threshold bias place))
      readDelta? bias (place + 36) weight delta s

theorem length_lt_of_readDelta? {bias place weight delta n : Nat} {s rest : List Char}
    (h : readDelta? bias place weight delta s = some (n, rest)) : rest.length < s.length := by
  induction s generalizing place weight delta with
  | nil => simp [readDelta?] at h
  | cons c s ih =>
    simp only [readDelta?, Option.bind_eq_bind, Option.bind_eq_some_iff] at h
    obtain ⟨digit, -, delta, -, h⟩ := h
    split at h
    · simp only [Option.some.injEq, Prod.mk.injEq] at h
      simp [h.2]
    · simp only [Option.bind_eq_some_iff] at h
      obtain ⟨weight, -, h⟩ := h
      exact Nat.lt_succ_of_lt (ih h)

def readCodes? (code place bias : Nat) (s out : List Char) : Option (List Char) :=
  if s.isEmpty then some out
  else
    match _read : readDelta? bias 36 1 0 s with
    | none => none
    | some (delta, rest) =>
      let count := out.length + 1
      let next := place + delta
      let code := code + next / count
      if code.isValidChar then
        readCodes? code (next % count + 1) (adaptBias delta count (place = 0))
          rest (out.insertIdx (next % count) (Char.ofNat code))
      else none
termination_by s.length
decreasing_by exact length_lt_of_readDelta? _read

def ofPunycode? (s : List Char) : Option (List Char) :=
  let front := (s.reverse.dropWhile (· ≠ '-')).reverse.dropLast
  let rest := if front.isEmpty then s else s.drop (front.length + 1)
  readCodes? 128 0 72 rest front

end CloudLookup.Url.Domain
