import CloudClient.Number.Decimal
import CloudClient.Number.Double
import CloudClient.Number.Shortest

/-!
# JSON numbers

A number in a JSON text is a numeral: an optional minus sign, digits without leading zeros, then
perhaps a fraction and a power of ten. `Numeral.parse?` takes it apart.

* `Numeral.int?` reads it where a whole number is asked for: only a numeral without fraction and
  power is one, and `-0` is not.
* `Numeral.number?` reads it where any number is kept. Whole numerals in the range of 64-bit
  words, signed or not, stay exact; every other one becomes a double.
-/

namespace CloudClient.Json

/-- A numeral, taken apart. -/
structure Numeral where
  /-- is there a minus sign? -/
  negative : Bool
  /-- the digits before the point -/
  whole : List Nat
  /-- the digits after the point; none if there is no point -/
  fraction : List Nat
  /-- the power of ten, if one is written -/
  power : Option Int
  deriving DecidableEq

/-- A number as it is kept in a value. -/
inductive Number where
  /-- a whole number between `-2 ^ 63` and `2 ^ 64 - 1` -/
  | whole (n : Int)
  /-- any other number, as the nearest double -/
  | real (x : Float)

namespace Numeral

/-- The value of a digit. -/
def digit (c : Char) : Nat := c.toNat - '0'.toNat

/-- The digits in front of a text, and the rest. -/
def digits (s : List Char) : List Nat × List Char :=
  ((s.takeWhile Char.isDigit).map digit, s.dropWhile Char.isDigit)

/-- The number that digits denote. -/
def natOf (ds : List Nat) : Nat := ds.foldl (fun n d => n * 10 + d) 0

/-- The whole part: one digit, or several of which the first is not zero. -/
def wholePart? (s : List Char) : Option (List Nat × List Char) :=
  match digits s with
  | ([], _) => none
  | (0 :: _ :: _, _) => none
  | (ds, rest) => some (ds, rest)

/-- The fraction, if there is a point. -/
def fractionPart? (s : List Char) : Option (List Nat × List Char) :=
  match s with
  | '.' :: rest =>
    match digits rest with
    | ([], _) => none
    | (ds, rest) => some (ds, rest)
  | _ => some ([], s)

/-- The digits of a power of ten, to the end of the text. -/
def powerDigits? (s : List Char) : Option Nat :=
  match digits s with
  | (d :: ds, []) => some (natOf (d :: ds))
  | _ => none

/-- The power of ten, if one is written, to the end of the text. -/
def powerPart? (s : List Char) : Option (Option Int) :=
  match s with
  | [] => some none
  | c :: rest =>
    if c = 'e' ∨ c = 'E' then
      match rest with
      | '-' :: rest => (powerDigits? rest).map fun n => some (-n)
      | '+' :: rest => (powerDigits? rest).map fun n => some n
      | rest => (powerDigits? rest).map fun n => some n
    else none

/-- Takes a numeral apart; nothing if the text is none. -/
def parse? (s : List Char) : Option Numeral := do
  let (negative, s) := match s with
    | '-' :: rest => (true, rest)
    | _ => (false, s)
  let (whole, s) ← wholePart? s
  let (fraction, s) ← fractionPart? s
  let power ← powerPart? s
  return { negative, whole, fraction, power }

/-- The number as a double, unless it is too large. -/
def double? (n : Numeral) : Option Float :=
  (Double.ofDigits? n.whole n.fraction (n.power.getD 0)).map fun x => if n.negative then -x else x

/-- Is the number written as a whole one? -/
def isWhole (n : Numeral) : Bool := n.fraction.isEmpty && n.power.isNone

/-- The whole number that is written, in the range of 64-bit words; `-0` is none. -/
def int? (n : Numeral) : Option Int :=
  let m := natOf n.whole
  if !n.isWhole then none
  else if n.negative then (if m = 0 ∨ 0x8000_0000_0000_0000 < m then none else some (-m))
  else if m < Decimal.wordSize then some m
  else none

/-- The number that is kept for a numeral, unless it is too large. -/
def number? (n : Numeral) : Option Number :=
  match n.int? with
  | some i => some (.whole i)
  | none => n.double?.map .real

end Numeral

/-- The layout of a double in a JSON text. -/
def realStyle : Shortest.Style := ⟨-4, 16⟩

/-- The text of a number. -/
def Number.text : Number → List Char
  | .whole n => Decimal.ofInt n
  | .real x => (realStyle.render x).toList

end CloudClient.Json
