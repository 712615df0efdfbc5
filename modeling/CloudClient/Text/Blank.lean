/-!
# Blank characters

Two notions of white space meet in the formats of this library: the Unicode property
`White_Space`, which dates and numbers in text forms are trimmed by, and the ASCII blanks.
-/

namespace CloudClient.Blank

/-- The ranges of the Unicode property `White_Space`, bounds included. -/
def ranges : List (Nat × Nat) :=
  [(0x09, 0x0D), (0x20, 0x20), (0x85, 0x85), (0xA0, 0xA0), (0x1680, 0x1680), (0x2000, 0x200A),
    (0x2028, 0x2029), (0x202F, 0x202F), (0x205F, 0x205F), (0x3000, 0x3000)]

/-- Has the character the property `White_Space`? -/
def isBlank (c : Char) : Bool := ranges.any fun r => r.1 ≤ c.toNat && c.toNat ≤ r.2

/-- The text without the blanks in front. -/
def trimStart (s : List Char) : List Char := s.dropWhile isBlank

/-- The text without the blanks on either side. -/
def trim (s : List Char) : List Char := ((trimStart s).reverse.dropWhile isBlank).reverse

end CloudClient.Blank
