import CloudLookup.Text.Numeral

/-! Dates and times of signatures. -/
namespace CloudLookup.Signature

def padded (width n : Nat) : List Char :=
  let digits := Text.decimal n
  List.replicate (width - digits.length) '0' ++ digits

/-- The year, month and day of a day counted from the start of 1970. Years are taken to begin in
March, so that a leap day ends one, and come in eras of 400. -/
def civil (day : Nat) : Nat × Nat × Nat :=
  let shifted := day + 719468
  let era := shifted / 146097
  let dayOfEra := shifted % 146097
  let yearOfEra := (dayOfEra - dayOfEra / 1460 + dayOfEra / 36524 - dayOfEra / 146096) / 365
  let dayOfYear := dayOfEra - (365 * yearOfEra + yearOfEra / 4 - yearOfEra / 100)
  let monthFromMarch := (5 * dayOfYear + 2) / 153
  let month := if monthFromMarch < 10 then monthFromMarch + 3 else monthFromMarch - 9
  let year := era * 400 + yearOfEra + (if month ≤ 2 then 1 else 0)
  (year, month, dayOfYear - (153 * monthFromMarch + 2) / 5 + 1)

def dateText (time : Nat) : List Char :=
  let (year, month, day) := civil (time / 86400)
  padded 4 year ++ padded 2 month ++ padded 2 day

def timeText (time : Nat) : List Char :=
  let second := time % 86400
  dateText time ++ 'T' :: padded 2 (second / 3600) ++ padded 2 (second / 60 % 60) ++
    padded 2 (second % 60) ++ ['Z']

end CloudLookup.Signature
