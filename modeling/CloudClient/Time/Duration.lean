import CloudClient.Number.Decimal
import CloudClient.Number.Shortest

/-!
# Durations

A span of time in whole nanoseconds, of at most `Duration.greatest`. Schedules compute in seconds as
doubles; `Duration.ofSeconds` rounds such a number to the nearest nanosecond, and a number too
large becomes the greatest duration.
-/

namespace CloudClient

/-- A span of time. -/
structure Duration where
  /-- its length in nanoseconds -/
  nanos : Nat
  deriving DecidableEq

namespace Duration

/-- The nanoseconds of a second. -/
def nanosPerSecond : Nat := 1_000_000_000

/-- The nanoseconds of a millisecond. -/
def nanosPerMilli : Nat := 1_000_000

/-- A duration of so many milliseconds. -/
def ofMillis (n : Nat) : Duration := ⟨n * nanosPerMilli⟩

/-- A duration of so many seconds and nanoseconds. -/
def ofParts (seconds nanos : Nat) : Duration := ⟨seconds * nanosPerSecond + nanos⟩

/-- The whole seconds of a duration. -/
def seconds (d : Duration) : Nat := d.nanos / nanosPerSecond

/-- The nanoseconds beyond the whole seconds. -/
def subsecond (d : Duration) : Nat := d.nanos % nanosPerSecond

/-- The greatest duration. -/
def greatest : Duration := ofParts (Decimal.wordSize - 1) (nanosPerSecond - 1)

/-- The milliseconds that a timer of this duration runs: a part of one counts as a whole one. -/
def millis (d : Duration) : Nat := (d.nanos + nanosPerMilli - 1) / nanosPerMilli

/-! ## Seconds as doubles -/

/-- The duration in seconds, as a double. -/
def toSeconds (d : Duration) : Float :=
  d.seconds.toUInt64.toFloat + d.subsecond.toUInt64.toFloat / 1e9

/-- The whole number nearest to a fraction; of two, the even one. -/
def roundToEven (numerator denominator : Nat) : Nat :=
  let quotient := numerator / denominator
  let twice := 2 * (numerator % denominator)
  if twice < denominator then quotient
  else if denominator < twice then quotient + 1
  else if quotient % 2 = 0 then quotient
  else quotient + 1

/-- The duration nearest to a number of seconds that is not negative; the greatest duration if
there is none as long. -/
def ofSeconds (x : Float) : Duration :=
  if x.isNaN || x.isInf then greatest
  else
    let b := Shortest.Binary.ofBits x.toBits
    let nanos :=
      roundToEven (b.mantissa * nanosPerSecond * Nat.pow 2 b.exponent.toNat)
        (Nat.pow 2 (-b.exponent).toNat)
    if nanos ≤ greatest.nanos then ⟨nanos⟩ else greatest

/-! ## Text -/

/-- A whole number with a decimal fraction of at most `places` digits, trailing zeros dropped. -/
def decimalText (whole fraction places : Nat) : String :=
  let digits := ((Decimal.padded places fraction).reverse.dropWhile (· == '0')).reverse
  Decimal.natText whole ++ (if digits.isEmpty then "" else "." ++ String.ofList digits)

/-- A duration in the largest unit that gives a whole part. -/
def text (d : Duration) : String :=
  let n := d.nanos
  if nanosPerSecond ≤ n then decimalText d.seconds d.subsecond 9 ++ "s"
  else if nanosPerMilli ≤ n then decimalText (n / nanosPerMilli) (n % nanosPerMilli) 6 ++ "ms"
  else if 1000 ≤ n then decimalText (n / 1000) (n % 1000) 3 ++ "µs"
  else Decimal.natText n ++ "ns"

/-- A duration in seconds with all nine places. -/
def fixedText (d : Duration) : String :=
  Decimal.natText d.seconds ++ "." ++ String.ofList (Decimal.padded 9 d.subsecond)

end Duration

end CloudClient
