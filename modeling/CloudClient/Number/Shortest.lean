import CloudClient.Number.Decimal

/-!
# Shortest decimal text of a double

A finite double is `m · 2 ^ q`. All reals closer to it than to its neighbours read back as it, so
it is written with the fewest digits that fall into this interval, and among those with the
nearest ones. `Shortest.digits` finds them by exact arithmetic on natural numbers: for one, two,
three … digits it tries the two points of the decimal grid next to the value.

A `Style` then says where the point goes; `Style.render` writes the text.
-/

namespace CloudClient.Shortest

/-! ## Doubles as fractions -/

/-- A positive finite double as `mantissa · 2 ^ exponent`. -/
structure Binary where
  /-- the integral significand, below `2 ^ 53` -/
  mantissa : Nat
  /-- the power of two it is scaled by -/
  exponent : Int
  /-- the double is a power of two, so that its lower neighbour is at half the distance -/
  boundary : Bool

/-- The leading bit of a significand, `2 ^ 52`; it is not stored. -/
def leadingBit : Nat := 0x10_0000_0000_0000

/-- The bit of the sign, `2 ^ 63`. -/
def signBit : Nat := 0x8000_0000_0000_0000

/-- The magnitude of the finite double with these bits. -/
def Binary.ofBits (bits : UInt64) : Binary :=
  let fraction : Nat := bits.toNat % leadingBit
  let biased : Nat := bits.toNat / leadingBit % 0x800
  if biased = 0 then ⟨fraction, -1074, false⟩
  else ⟨fraction + leadingBit, (biased : Int) - 1075, fraction == 0 && 1 < biased⟩

/-- A fraction `numerator · 2 ^ a · 10 ^ b` with the powers carried as factors. -/
def scaled (numerator : Nat) (two ten : Int) : Nat × Nat :=
  (numerator * Nat.pow 2 two.toNat * Nat.pow 10 ten.toNat,
    Nat.pow 2 (-two).toNat * Nat.pow 10 (-ten).toNat)

/-- Is the first fraction at most the second one? -/
def atMost (x y : Nat × Nat) : Bool := x.1 * y.2 ≤ y.1 * x.2

/-- Is the first fraction below the second one? -/
def below (x y : Nat × Nat) : Bool := x.1 * y.2 < y.1 * x.2

namespace Binary

/-- The value in quarters of its last place, as a fraction. -/
def value (b : Binary) : Nat × Nat := scaled (4 * b.mantissa) (b.exponent - 2) 0

/-- Does the real `c · 10 ^ k` read back as the double? The ends of the interval do if the
significand is even. -/
def readsBack (b : Binary) (c : Nat) (k : Int) : Bool :=
  -- halfway to the neighbours; the lower one of a power of two is nearer
  let low := scaled (4 * b.mantissa - if b.boundary then 1 else 2) (b.exponent - 2) 0
  let high := scaled (4 * b.mantissa + 2) (b.exponent - 2) 0
  let point := scaled c 0 k
  if b.mantissa % 2 = 0 then atMost low point && atMost point high
  else below low point && below point high

/-- The whole number of steps of `10 ^ k` in the value. -/
def floorAt (b : Binary) (k : Int) : Nat :=
  let (p, q) := scaled (4 * b.mantissa) (b.exponent - 2) (-k)
  p / q

/-- Is `c + 1` nearer to the value than `c`, on the grid of `10 ^ k`? At equal distance the even
one of them is taken. -/
def prefersNext (b : Binary) (c : Nat) (k : Int) : Bool :=
  let middle := scaled (2 * c + 1) 0 k
  let twice := scaled (8 * b.mantissa) (b.exponent - 2) 0
  below middle twice || (atMost middle twice && c % 2 = 1)

/-- The exponent of ten of the first digit. -/
def magnitude (b : Binary) : Int :=
  ((Decimal.ofNat (b.floorAt (-400))).length : Int) - 401

/-- The first grid, from `10 ^ k` downwards, that has a point reading back as the value; at most
`fuel` finer grids are tried. -/
def search (b : Binary) : Nat → Int → Nat × Int
  | 0, k => (b.floorAt k, k)
  | fuel + 1, k =>
    let c := b.floorAt k
    match b.readsBack c k, b.readsBack (c + 1) k with
    | true, true => (if b.prefersNext c k then c + 1 else c, k)
    | true, false => (c, k)
    | false, true => (c + 1, k)
    | false, false => search b fuel (k - 1)

end Binary

/-- Digits and the place of the point: `0.d₁d₂… · 10 ^ point`, the last digit not zero. -/
structure Digits where
  /-- the significant digits -/
  digits : List Char
  /-- how many of them stand before the point -/
  point : Int

/-- The number `c · 10 ^ k` without trailing zeros. -/
def Digits.ofScaled (c : Nat) (k : Int) : Digits :=
  let ds := Decimal.ofNat c
  ⟨(ds.reverse.dropWhile (· == '0')).reverse, ds.length + k⟩

/-- The fewest digits that read back as the double, and among those the nearest. Seventeen
digits always do. -/
def digits (b : Binary) : Digits :=
  let (c, k) := b.search 18 b.magnitude
  Digits.ofScaled c k

/-! ## Where the point goes -/

/-- How a double is laid out. -/
structure Style where
  /-- the lowest place of the point that is written out in zeros -/
  lowest : Int
  /-- the highest place of the point that is written out in zeros -/
  highest : Int

/-- Digits around the point, with a zero on a side that has none. -/
def positional (d : Digits) : List Char :=
  let n : Int := d.digits.length
  if n ≤ d.point then d.digits ++ List.replicate (d.point - n).toNat '0' ++ ['.', '0']
  else if 0 < d.point then
    d.digits.take d.point.toNat ++ '.' :: d.digits.drop d.point.toNat
  else '0' :: '.' :: List.replicate (-d.point).toNat '0' ++ d.digits

/-- One digit before the point, and a power of ten. -/
def exponential (d : Digits) : List Char :=
  let power := 'e' :: Decimal.ofInt (d.point - 1)
  match d.digits with
  | [] => '0' :: power
  | [c] => c :: power
  | c :: more => c :: '.' :: more ++ power

/-- The text of a double. -/
def Style.render (style : Style) (x : Float) : String :=
  let bits := x.toBits
  let sign := if bits.toNat / signBit = 1 then "-" else ""
  if x.isNaN then "NaN"
  else if x.isInf then sign ++ "inf"
  else if bits.toNat % signBit = 0 then sign ++ "0.0"
  else
    let d := digits (Binary.ofBits bits)
    sign ++ String.ofList
      (if style.lowest ≤ d.point ∧ d.point ≤ style.highest then positional d else exponential d)

end CloudClient.Shortest
