/-!
# Calendar dates

Dates of the Gregorian calendar, extended to all years, and their distance in days from
1970-01-01. The year is counted from March, so that the leap day is the last day of a year, in eras
of 400 years.
-/

namespace CloudClient.Time

/-- A date: year, month from 1 to 12, day of the month from 1. -/
structure Date where
  /-- the year; zero is the year before the year one -/
  year : Int
  /-- the month -/
  month : Nat
  /-- the day of the month -/
  day : Nat
  deriving DecidableEq

/-- Has the year a leap day? -/
def isLeapYear (year : Int) : Bool := year % 4 = 0 && (year % 100 ≠ 0 || year % 400 = 0)

/-- How many days the month has. -/
def daysInMonth (year : Int) (month : Nat) : Nat :=
  match month with
  | 2 => if isLeapYear year then 29 else 28
  | 4 | 6 | 9 | 11 => 30
  | _ => 31

namespace Date

/-- Is there such a day? -/
def isValid (d : Date) : Bool :=
  1 ≤ d.month && d.month ≤ 12 && 1 ≤ d.day && d.day ≤ daysInMonth d.year d.month

/-- The days of an era of 400 years. -/
def eraDays : Int := 146097

/-- The number of days since 1970-01-01. -/
def toDays (d : Date) : Int :=
  let year : Int := if d.month ≤ 2 then d.year - 1 else d.year
  let era := year / 400
  let yearOfEra := year % 400
  let month : Int := (d.month + 9) % 12
  let dayOfYear : Int := (153 * month + 2) / 5 + d.day - 1
  let dayOfEra := yearOfEra * 365 + yearOfEra / 4 - yearOfEra / 100 + dayOfYear
  era * eraDays + dayOfEra - 719468

/-- The date that many days after 1970-01-01. -/
def ofDays (days : Int) : Date :=
  let days := days + 719468
  let era := days / eraDays
  let dayOfEra := days % eraDays
  let yearOfEra :=
    (dayOfEra - dayOfEra / 1460 + dayOfEra / 36524 - dayOfEra / 146096) / 365
  let dayOfYear := dayOfEra - (365 * yearOfEra + yearOfEra / 4 - yearOfEra / 100)
  let month := (5 * dayOfYear + 2) / 153
  let day := dayOfYear - (153 * month + 2) / 5 + 1
  let month := if month < 10 then month + 3 else month - 9
  let year := yearOfEra + era * 400
  ⟨if month ≤ 2 then year + 1 else year, month.toNat, day.toNat⟩

/-- The day of the week, Monday being zero. -/
def weekday (d : Date) : Nat := ((d.toDays + 3) % 7).toNat

end Date

end CloudClient.Time
