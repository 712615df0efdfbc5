import CloudClient.Number.Decimal
import CloudClient.Text.Blank
import CloudClient.Time.Civil
import CloudClient.Time.Duration

/-!
# Timestamps

A `Timestamp` is a moment in UTC with nanoseconds. A second may be a leap second, `:60`.

* `Timestamp.parse?` reads the internet format `2016-01-30T23:55:00+00:00` with some tolerance:
  blanks between the parts of the date and of the time, single digits, a blank or a small letter in
  place of `T` and `Z`, and offsets with or without a colon.
* `Timestamp.text` writes the moment with `Z` and as many fraction digits as needed, in threes.
-/

namespace CloudClient.Time

/-- A moment in UTC. -/
structure Timestamp where
  /-- the day, counted from 1970-01-01 -/
  day : Int
  /-- the second of the day, from 0 to 86399 -/
  second : Nat
  /-- the nanosecond of the second; from `10 ^ 9` on it belongs to a leap second after it -/
  nano : Nat
  deriving DecidableEq

namespace Timestamp

/-- The first moment of 1970. -/
def epoch : Timestamp := ⟨0, 0, 0⟩

/-! ## Reading -/

/-- A reader takes something off the front of a text and gives the rest. -/
abbrev Reader (α : Type) := List Char → Option (α × List Char)

/-- Reads a number of one to `most` digits after any blanks. -/
def number (most : Nat) : Reader Nat := fun s =>
  let s := Blank.trimStart s
  let digits := (s.take most).takeWhile Char.isDigit
  if digits.isEmpty then none else some (Decimal.value digits, s.drop digits.length)

/-- Reads any number of digits. -/
def longNumber : Reader Nat := fun s =>
  let digits := s.takeWhile Char.isDigit
  if digits.isEmpty then none else some (Decimal.value digits, s.drop digits.length)

/-- Reads a year after any blanks: up to four digits, or any number of them after a sign. -/
def year : Reader Int := fun s =>
  match Blank.trimStart s with
  | '-' :: s => (longNumber s).map fun (n, s) => (-(n : Int), s)
  | '+' :: s => (longNumber s).map fun (n, s) => ((n : Int), s)
  | s => (number 4 s).map fun (n, s) => ((n : Int), s)

/-- Reads a separator after any blanks. -/
def separator (c : Char) : Reader Unit := fun s =>
  match Blank.trimStart s with
  | d :: s => if d = c then some ((), s) else none
  | [] => none

/-- Reads a fraction of a second, if there is one, in nanoseconds; digits after the ninth are
dropped. -/
def fraction : Reader Nat := fun s =>
  match s with
  | '.' :: s =>
    let digits := s.takeWhile Char.isDigit
    if digits.isEmpty then none
    else
      some (Decimal.value (digits.take 9) * Nat.pow 10 (9 - digits.length),
        s.drop digits.length)
  | _ => some (0, s)

/-- Reads two digits. -/
def twoDigits : Reader Nat := fun s =>
  match s with
  | a :: b :: s => if a.isDigit && b.isDigit then some (Decimal.value [a, b], s) else none
  | _ => none

/-- Reads a sign. -/
def sign : Reader Int := fun s =>
  match s with
  | '+' :: s => some (1, s)
  | '-' :: s => some (-1, s)
  | '−' :: s => some (-1, s)
  | _ => none

/-- Reads an offset from UTC in seconds. Hours and minutes have two digits each, with colons and
blanks between them or none. -/
def offset : Reader Int := fun s =>
  match s with
  | 'Z' :: s | 'z' :: s => some (0, s)
  | _ => do
    let (sign, s) ← sign s
    let (hours, s) ← twoDigits s
    let (minutes, s) ← twoDigits (s.dropWhile fun c => c == ':' || Blank.isBlank c)
    guard (minutes < 60)
    return (sign * (hours * 3600 + minutes * 60 : Nat), s)

/-- The seconds of a day. -/
def secondsPerDay : Int := 86400

/-- The years that dates are kept for. -/
def isKeptYear (y : Int) : Bool := -262143 ≤ y && y ≤ 262142

/-- The moment of a local date and time of day at an offset from UTC; nothing if there is none. -/
def ofLocal? (date : Date) (hour minute second nano : Nat) (offset : Int) : Option Timestamp :=
  if isKeptYear date.year && date.isValid && hour < 24 && minute < 60 && second ≤ 60 &&
      offset.natAbs < 86400 then
    -- a leap second lies within the second before it
    let leap := second = 60
    let time : Int := hour * 3600 + minute * 60 + (if leap then 59 else second) - offset
    let day := date.toDays + time / secondsPerDay
    if isKeptYear (Date.ofDays day).year then
      some ⟨day, (time % secondsPerDay).toNat,
        if leap then nano + Duration.nanosPerSecond else nano⟩
    else none
  else none

/-- Reads a moment. -/
def parse? (s : String) : Option Timestamp := do
  let (year, s) ← year s.toList
  let ((), s) ← separator '-' s
  let (month, s) ← number 2 s
  let ((), s) ← separator '-' s
  let (day, s) ← number 2 s
  let s ← match s with
    | 'T' :: s | 't' :: s | ' ' :: s => some s
    | _ => none
  let (hour, s) ← number 2 s
  let ((), s) ← separator ':' s
  let (minute, s) ← number 2 s
  let ((), s) ← separator ':' s
  let (second, s) ← number 2 s
  let (nano, s) ← fraction s
  let (offset, s) ← offset (Blank.trimStart s)
  guard (Blank.trimStart s).isEmpty
  ofLocal? ⟨year, month, day⟩ hour minute second nano offset

/-! ## Writing -/

/-- A year: four digits, or a sign and at least four digits outside of the years 0 to 9999. -/
def yearChars (y : Int) : List Char :=
  if 0 ≤ y ∧ y ≤ 9999 then Decimal.padded 4 y.toNat
  else (if y < 0 then '-' else '+') :: Decimal.padded 4 y.natAbs

/-- A fraction of a second with three, six or nine digits, whichever is exact; none for zero. -/
def fractionChars (nano : Nat) : List Char :=
  if nano = 0 then []
  else if nano % Duration.nanosPerMilli = 0 then
    '.' :: Decimal.padded 3 (nano / Duration.nanosPerMilli)
  else if nano % 1000 = 0 then '.' :: Decimal.padded 6 (nano / 1000)
  else '.' :: Decimal.padded 9 nano

/-- The text of a moment. -/
def text (t : Timestamp) : String :=
  let date := Date.ofDays t.day
  let second := t.second % 60 + t.nano / Duration.nanosPerSecond
  String.ofList
    (yearChars date.year ++ '-' :: Decimal.padded 2 date.month ++ '-' ::
      Decimal.padded 2 date.day ++ 'T' :: Decimal.padded 2 (t.second / 3600) ++ ':' ::
      Decimal.padded 2 (t.second / 60 % 60) ++ ':' :: Decimal.padded 2 second ++
      fractionChars (t.nano % Duration.nanosPerSecond) ++ ['Z'])

end Timestamp

end CloudClient.Time
