namespace StaticPages.Log.Calendar

def millisecondsPerDay : Int := 86400000

/-- The largest distance, in milliseconds, of an instant from the start of 1970:
    a hundred million days. -/
def maxInstant : Int := 8640000000000000

/-- A day of the Gregorian calendar, continued in both directions. -/
structure Date where
  year : Int
  month : Nat
  day : Nat
  deriving DecidableEq, Repr

/-- The date so many days after 1 January 1970. Years are counted from March, so
    that a leap day ends its year; 400 of them have 146097 days. -/
def dateOfDays (days : Int) : Date :=
  let shifted := days + 719468
  let era := shifted.fdiv 146097
  let dayOfEra := (shifted - era * 146097).toNat
  let yearOfEra := (dayOfEra - dayOfEra / 1460 + dayOfEra / 36524 - dayOfEra / 146096) / 365
  let dayOfYear := dayOfEra - (365 * yearOfEra + yearOfEra / 4 - yearOfEra / 100)
  let monthIndex := (5 * dayOfYear + 2) / 153
  let day := dayOfYear - (153 * monthIndex + 2) / 5 + 1
  let month := if monthIndex < 10 then monthIndex + 3 else monthIndex - 9
  let year := yearOfEra + era * 400 + (if month ≤ 2 then 1 else 0)
  ⟨year, month, day⟩

/-- A number with zeros in front up to a width. -/
def padded (width n : Nat) : String :=
  let digits := Nat.toDigits 10 n
  String.ofList (List.replicate (width - digits.length) '0' ++ digits)

/-- Four digits for the years 0 to 9999, otherwise a sign and six. -/
def yearText (year : Int) : String :=
  if 0 ≤ year ∧ year ≤ 9999 then padded 4 year.natAbs
  else (if year < 0 then "-" else "+") ++ padded 6 year.natAbs

/-- The date of an instant, in milliseconds since the start of 1970. -/
def dateText (instant : Int) : String :=
  let date := dateOfDays (instant.fdiv millisecondsPerDay)
  yearText date.year ++ "-" ++ padded 2 date.month ++ "-" ++ padded 2 date.day

def timeText (instant : Int) : String :=
  let ms := (instant.fmod millisecondsPerDay).toNat
  padded 2 (ms / 3600000) ++ ":" ++ padded 2 (ms / 60000 % 60) ++ ":" ++
    padded 2 (ms / 1000 % 60) ++ "." ++ padded 3 (ms % 1000)

/-- An instant with its date and time. -/
def stampText (instant : Int) : String :=
  dateText instant ++ "T" ++ timeText instant ++ "Z"

/-- The name of the log file for an instant, if the calendar reaches that far. -/
def fileName? (instant : Int) : Option String :=
  if instant.natAbs ≤ maxInstant.natAbs then some (dateText instant ++ ".jsonl") else none

end StaticPages.Log.Calendar
