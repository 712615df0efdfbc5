import CloudClient.Number.Decimal
import CloudClient.Text.Blank
import CloudClient.Time.Civil

/-!
# Dates in header fields

Three layouts are read: `Sun, 06 Nov 1994 08:49:37 GMT`, `Sunday, 06-Nov-94 08:49:37 GMT` and
`Sun Nov  6 08:49:37 1994`. A date has to exist, and the day of the week has to be the right one.
Years run from 1970 to 9999; of two digits, those below 70 belong to the years from 2000.
-/

namespace CloudClient.Time.HttpDate

/-- The days of the week from Monday. -/
def weekdays : List String :=
  ["Monday", "Tuesday", "Wednesday", "Thursday", "Friday", "Saturday", "Sunday"]

/-- The months of the year, by their first letters. -/
def months : List String :=
  ["Jan", "Feb", "Mar", "Apr", "May", "Jun", "Jul", "Aug", "Sep", "Oct", "Nov", "Dec"]

/-- The part of `n` characters from position `i` on. -/
def part (s : List Char) (i n : Nat) : List Char := (s.drop i).take n

/-- The number in the part of `n` digits from position `i` on. -/
def number? (s : List Char) (i n : Nat) : Option Nat := Decimal.nat? (part s i n)

/-- The position of a name in a list of names. -/
def position? (names : List String) (name : List Char) : Option Nat :=
  names.findIdx? (·.toList == name)

/-- The position of a day of the week by its first three letters. -/
def shortWeekday? (name : List Char) : Option Nat :=
  position? (weekdays.map fun d => String.ofList (d.toList.take 3)) name

/-- A date and time of day as written, with the day of the week. -/
structure Reading where
  /-- the day of the week, Monday being zero -/
  weekday : Nat
  /-- the date -/
  date : Date
  /-- the hour -/
  hour : Nat
  /-- the minute -/
  minute : Nat
  /-- the second -/
  second : Nat

/-- Reads `Sun, 06 Nov 1994 08:49:37 GMT`. -/
def fixed? (s : List Char) : Option Reading := do
  guard (s.length = 29 ∧ part s 3 2 = [',', ' '] ∧ part s 7 1 = [' '] ∧ part s 11 1 = [' '] ∧
    part s 16 1 = [' '] ∧ part s 19 1 = [':'] ∧ part s 22 1 = [':'] ∧
    part s 25 4 = " GMT".toList)
  let weekday ← shortWeekday? (part s 0 3)
  let month ← position? months (part s 8 3)
  return {
    weekday
    date := ⟨← number? s 12 4, month + 1, ← number? s 5 2⟩
    hour := ← number? s 17 2
    minute := ← number? s 20 2
    second := ← number? s 23 2 }

/-- The day of the week at the front of `Sunday, …`, and what follows. -/
def longWeekday? (s : List Char) : Option (Nat × List Char) := do
  let name := s.takeWhile (· ≠ ',')
  let rest := s.drop name.length
  guard (rest.take 2 = [',', ' '])
  return (← position? weekdays name, rest.drop 2)

/-- Reads `Sunday, 06-Nov-94 08:49:37 GMT`. -/
def withDashes? (s : List Char) : Option Reading := do
  let (weekday, s) ← longWeekday? s
  guard (s.length = 22 ∧ part s 2 1 = ['-'] ∧ part s 6 1 = ['-'] ∧ part s 12 1 = [':'] ∧
    part s 15 1 = [':'] ∧ part s 18 4 = " GMT".toList)
  let month ← position? months (part s 3 3)
  let year ← number? s 7 2
  return {
    weekday
    date := ⟨if year < 70 then year + 2000 else year + 1900, month + 1, ← number? s 0 2⟩
    hour := ← number? s 10 2
    minute := ← number? s 13 2
    second := ← number? s 16 2 }

/-- Reads `Sun Nov  6 08:49:37 1994`. -/
def withYearLast? (s : List Char) : Option Reading := do
  guard (s.length = 24 ∧ part s 3 1 = [' '] ∧ part s 7 1 = [' '] ∧ part s 10 1 = [' '] ∧
    part s 13 1 = [':'] ∧ part s 16 1 = [':'] ∧ part s 19 1 = [' '])
  let weekday ← shortWeekday? (part s 0 3)
  let month ← position? months (part s 4 3)
  let day ← if part s 8 1 = [' '] then number? s 9 1 else number? s 8 2
  return {
    weekday
    date := ⟨← number? s 20 4, month + 1, day⟩
    hour := ← number? s 11 2
    minute := ← number? s 14 2
    second := ← number? s 17 2 }

namespace Reading

/-- Is there such a moment, on such a day of the week? -/
def isValid (r : Reading) : Bool :=
  r.date.isValid && 1970 ≤ r.date.year && r.date.year ≤ 9999 && r.date.weekday == r.weekday &&
    r.hour < 24 && r.minute < 60 && r.second < 60

/-- The number of seconds since 1970-01-01. -/
def seconds (r : Reading) : Nat :=
  r.date.toDays.toNat * 86400 + r.hour * 3600 + r.minute * 60 + r.second

end Reading

/-- The moment that a header field names, in seconds since 1970-01-01. Blanks around it are
dropped. -/
def parse? (s : String) : Option Nat := do
  let s := Blank.trim s.toList
  let reading ← (fixed? s).or ((withDashes? s).or (withYearLast? s))
  guard reading.isValid
  return reading.seconds

end CloudClient.Time.HttpDate
