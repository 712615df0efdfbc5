/-!
# Punycode

Labels of domain names outside of ASCII are written in ASCII: first their ASCII characters, then,
after a hyphen, where the other characters go, in the order of their code points. The numbers have
digits of base 36 with thresholds that adapt to the numbers before.
-/

namespace CloudClient.Punycode

/-! ## Digits and thresholds -/

/-- The digit for a value below 36. -/
def digitChar (d : Nat) : Char :=
  if d < 26 then Char.ofNat ('a'.toNat + d) else Char.ofNat ('0'.toNat + (d - 26))

/-- The value of a digit. -/
def digitValue? (c : Char) : Option Nat :=
  if c.isLower then some (c.toNat - 'a'.toNat)
  else if c.isUpper then some (c.toNat - 'A'.toNat)
  else if c.isDigit then some (c.toNat - '0'.toNat + 26)
  else none

/-- The threshold of the digit at place `k`, places being counted in steps of 36. -/
def threshold (k bias : Nat) : Nat := if k ≤ bias then 1 else min 26 (k - bias)

/-- Reduces a distance to the size of one digit; the count of reductions goes into the bias. -/
def reduce (distance k : Nat) : Nat :=
  if 455 < distance then reduce (distance / 35) (k + 36) else k + 36 * distance / (distance + 38)
termination_by distance
decreasing_by omega

/-- The bias after a distance has been written or read, with so many characters placed. -/
def adapt (distance count : Nat) (isFirst : Bool) : Nat :=
  let distance := if isFirst then distance / 700 else distance / 2
  reduce (distance + distance / count) 0

/-- The bias at the start. -/
def startBias : Nat := 72

/-- The first code point outside of ASCII. -/
def startPoint : Nat := 128

/-- One more than the greatest number that is worked with. -/
def numberLimit : Nat := 0x1_0000_0000

/-! ## Writing -/

/-- The digits of a distance, at most `fuel` of them. -/
def distanceDigits (bias : Nat) : Nat → Nat → Nat → List Char
  | 0, _, _ => []
  | fuel + 1, k, q =>
    let t := threshold k bias
    if q < t then [digitChar q]
    else
      digitChar (t + (q - t) % (36 - t)) ::
        distanceDigits bias fuel (k + 36) ((q - t) / (36 - t))

/-- How far the writer has come. -/
structure Writer where
  /-- the digits so far, in reverse order of their groups -/
  groups : List (List Char)
  /-- the distance since the last character that was written -/
  distance : Nat
  /-- how many characters are placed -/
  count : Nat
  /-- the bias -/
  bias : Nat

/-- Passes one character of the text in the round for the code point `n`. -/
def Writer.pass (basic n : Nat) (w : Writer) (c : Char) : Writer :=
  if c.toNat < n then { w with distance := w.distance + 1 }
  else if c.toNat = n then
    { groups := distanceDigits w.bias (w.distance + 1) 36 w.distance :: w.groups
      distance := 0
      count := w.count + 1
      bias := adapt w.distance (w.count + 1) (w.count == basic) }
  else w

/-- Writes the characters with the code points `points`, in ascending order, of which the last one
before is `last`. -/
def writePoints (text : List Char) (basic : Nat) : List Nat → Nat → Writer → Writer
  | [], _, w => w
  | n :: points, last, w =>
    let w := { w with distance := w.distance + (n - last) * (w.count + 1) }
    let w := text.foldl (Writer.pass basic n) w
    writePoints text basic points (n + 1) { w with distance := w.distance + 1 }

/-- The code points outside of ASCII in ascending order, each once. -/
def points (text : List Char) : List Nat :=
  ((text.map Char.toNat).filter (startPoint ≤ ·)).eraseDups.mergeSort

/-- Writes a text. -/
def encode (text : List Char) : List Char :=
  let basic := text.filter (·.toNat < startPoint)
  let w := writePoints text basic.length (points text) startPoint
    ⟨[], 0, basic.length, startBias⟩
  (if basic.isEmpty then [] else basic ++ ['-']) ++ w.groups.reverse.flatten

/-! ## Reading -/

/-- Reads a distance off the front of a text, added to `i` with the weight `w`. -/
def readDistance? (bias : Nat) : List Char → Nat → Nat → Nat → Option (Nat × List Char)
  | [], _, _, _ => none
  | c :: s, k, w, i => do
    let d ← digitValue? c
    let i := i + d * w
    guard (i < numberLimit)
    let t := threshold k bias
    if d < t then return (i, s) else readDistance? bias s (k + 36) (w * (36 - t)) i

/-- Reads characters into a text, at most `fuel` of them. -/
def readPoints? : Nat → List Char → Nat → Nat → Nat → List Char → Option (List Char)
  | _, [], _, _, _, text => some text
  | 0, _ :: _, _, _, _, _ => none
  | fuel + 1, s, n, i, bias, text => do
    let (j, s) ← readDistance? bias s 36 1 i
    let count := text.length + 1
    let n := n + j / count
    guard n.isValidChar
    let place := j % count
    readPoints? fuel s n (place + 1) (adapt (j - i) count (i == 0))
      (text.take place ++ Char.ofNat n :: text.drop place)

/-- Reads a text; nothing if it is not one that can be read. -/
def decode? (s : List Char) : Option (List Char) :=
  let back := s.reverse
  let tail := (back.takeWhile (· ≠ '-')).reverse
  let basic := ((back.dropWhile (· ≠ '-')).drop 1).reverse
  if basic.all (·.toNat < startPoint) then
    readPoints? tail.length tail startPoint 0 startBias basic
  else none

end CloudClient.Punycode
