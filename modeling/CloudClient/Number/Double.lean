import CloudClient.Number.Decimal

/-!
# Doubles from decimal numerals

A numeral with a fraction or an exponent is a whole significand scaled by a power of ten. The
significand keeps as many leading digits as fit into 64 bits; digits that do not fit count only by
their place. The value is one multiplication or division of doubles by a power of ten, and an
overflow to infinity is no number.
-/

namespace CloudClient.Double

/-- The greatest power of ten that is a finite double. -/
def greatestPower : Nat := 308

/-- The power of ten `10 ^ k`. -/
def powerOfTen (k : Nat) : Float := Float.ofScientific 1 false k

/-- Appends digits to a number while it fits into 64 bits; gives it and the digits left over. -/
def absorb : Nat → List Nat → Nat × List Nat
  | n, [] => (n, [])
  | n, d :: ds =>
    if n * 10 + d < Decimal.wordSize then absorb (n * 10 + d) ds else (n, d :: ds)

/-- Divides by `10 ^ 308` and then by what is left of the power; a value of zero stays so. At most
`fuel` steps are taken, which is enough when the power is at most `308 · fuel`. -/
def divideBy : Nat → Float → Nat → Float
  | 0, _, _ => 0.0
  | fuel + 1, x, k =>
    if k ≤ greatestPower then x / powerOfTen k
    else if x == 0.0 then x
    else divideBy fuel (x / powerOfTen greatestPower) (k - greatestPower)

/-- The double for `significand · 10 ^ exponent`, unless it is too large. -/
def ofScaled? (significand : Nat) (exponent : Int) : Option Float :=
  let x := significand.toUInt64.toFloat
  match exponent with
  | .ofNat k =>
    if k ≤ greatestPower then
      let y := x * powerOfTen k
      if y.isInf then none else some y
    else if significand = 0 then some x
    else none
  | .negSucc k => some (divideBy 4 x (k + 1))

/-- The greatest exponent that is told apart from a greater one. -/
def exponentLimit : Nat := 0x8000_0000

/-- The double of a numeral `whole.fraction · 10 ^ power` given by its digits, unless it is too
large. A power beyond 32 bits makes zero of a numeral when it is negative or the significand is
zero. -/
def ofDigits? (whole fraction : List Nat) (power : Int) : Option Float :=
  let (n, spilled) := absorb 0 whole
  let (significand, dropped) := absorb n fraction
  -- digits after the point that are dropped do not move the point
  let exponent : Int := spilled.length - (fraction.length - dropped.length)
  if power.natAbs < exponentLimit then ofScaled? significand (exponent + power)
  else if significand = 0 || power < 0 then some 0.0
  else none

end CloudClient.Double
