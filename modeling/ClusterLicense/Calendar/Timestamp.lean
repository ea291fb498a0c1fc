/-
  ClusterLicense/Calendar/Timestamp.lean
  ======================================
  **Instants as dates.**

  An instant is a count of milliseconds since the start of 1970.  The calendar
  repeats every 400 years, and a year that begins in March has its leap day at
  the end, so the date follows from a day count by divisions alone.
-/
namespace ClusterLicense.Calendar

/-- A date of the Gregorian calendar, extended to all years. -/
structure Date where
  year : Int
  month : Nat
  day : Nat
  deriving DecidableEq

def daysPerEra : Int := 146097

/-- How many days lie between the first of March of the year zero and the start of 1970. -/
def daysBefore1970 : Int := 719468

def Date.ofDays (days : Int) : Date :=
  let shifted := days + daysBefore1970
  let era := shifted.fdiv daysPerEra
  let dayOfEra := (shifted.fmod daysPerEra).toNat
  let yearOfEra :=
    (dayOfEra - dayOfEra / 1460 + dayOfEra / 36524 - dayOfEra / 146096) / 365
  let dayOfYear := dayOfEra - (365 * yearOfEra + yearOfEra / 4 - yearOfEra / 100)
  let monthFromMarch := (5 * dayOfYear + 2) / 153
  let month := if monthFromMarch < 10 then monthFromMarch + 3 else monthFromMarch - 9
  let year := era * 400 + yearOfEra
  { year := if month ≤ 2 then year + 1 else year
    month := month
    day := dayOfYear - (153 * monthFromMarch + 2) / 5 + 1 }

def padded (width n : Nat) : String :=
  let digits := Nat.toDigits 10 n
  String.ofList (List.replicate (width - digits.length) '0' ++ digits)

/-- A year in at least four digits, with a sign where four digits are not enough to tell. -/
def yearText (year : Int) : String :=
  let digits := padded 4 year.natAbs
  if year < 0 then "-" ++ digits
  else if year ≤ 9999 then digits
  else "+" ++ digits

def millisPerDay : Int := 86400000

def firstInstant : Int := -8334601228800000

def lastInstant : Int := 8210266876799999

/-- The date and time of an instant in universal time, if it lies within the calendar's range;
milliseconds are shown only where they are not zero. -/
def timestamp? (millis : Int64) : Option String :=
  let t := millis.toInt
  if firstInstant ≤ t ∧ t ≤ lastInstant then
    let date := Date.ofDays (t.fdiv millisPerDay)
    let time := (t.fmod millisPerDay).toNat
    let seconds := time / 1000
    let day := yearText date.year ++ "-" ++ padded 2 date.month ++ "-" ++ padded 2 date.day
    let clock := padded 2 (seconds / 3600) ++ ":" ++ padded 2 (seconds / 60 % 60) ++ ":" ++
      padded 2 (seconds % 60)
    let fraction := if time % 1000 = 0 then "" else "." ++ padded 3 (time % 1000)
    some (day ++ "T" ++ clock ++ fraction ++ "+00:00")
  else none

end ClusterLicense.Calendar
