/-!
# Text in bytes

Bodies and header values travel as bytes and are shown as text. One decoding step,
`Utf8.step`, takes the first character or the first ill-formed piece off a byte string; both
readers are folds of it:

* `Utf8.decode?` accepts well-formed UTF-8 only;
* `Utf8.decodeLossy` puts one U+FFFD for each maximal ill-formed piece;
* `Utf8.encode` is the way back.
-/

namespace CloudClient

/-- A string of bytes, as bodies and header values hold it. -/
abbrev Bytes := List UInt8

namespace Utf8

/-! ## One step of decoding -/

/-- Does the byte continue a character (`10xxxxxx`)? -/
def isTail (b : UInt8) : Bool := 0x80 ≤ b && b ≤ 0xBF

/-- The six payload bits of a continuation byte. -/
def payload (b : UInt8) : Nat := b.toNat % 64

/-- What stands at the front of a byte string. -/
inductive Front where
  /-- a whole character and the bytes after it -/
  | character (c : Char) (rest : Bytes)
  /-- a piece that starts no character, and the bytes after it -/
  | illFormed (rest : Bytes)
  /-- nothing is left -/
  | empty

/-- A lead byte of a character of two to four bytes: its payload, the bounds of the second byte,
and how many continuation bytes follow the second one. The bounds rule out overlong forms,
surrogates and values beyond U+10FFFF. -/
def lead? (b : UInt8) : Option (Nat × UInt8 × UInt8 × Nat) :=
  if 0xC2 ≤ b && b ≤ 0xDF then some (b.toNat % 32, 0x80, 0xBF, 0)
  else if b == 0xE0 then some (0, 0xA0, 0xBF, 1)
  else if b == 0xED then some (13, 0x80, 0x9F, 1)
  else if 0xE1 ≤ b && b ≤ 0xEF then some (b.toNat % 16, 0x80, 0xBF, 1)
  else if b == 0xF0 then some (0, 0x90, 0xBF, 2)
  else if 0xF1 ≤ b && b ≤ 0xF3 then some (b.toNat % 8, 0x80, 0xBF, 2)
  else if b == 0xF4 then some (4, 0x80, 0x8F, 2)
  else none

/-- The value so far, extended by `n` continuation bytes; an ill-formed piece ends before the
first byte that does not fit. -/
def tails : Nat → Nat → Bytes → Front
  | 0, v, rest => .character (Char.ofNat v) rest
  | _ + 1, _, [] => .illFormed []
  | n + 1, v, b :: rest =>
    if isTail b then tails n (v * 64 + payload b) rest else .illFormed (b :: rest)

/-- The first character, or the first maximal ill-formed piece. -/
def step : Bytes → Front
  | [] => .empty
  | b :: rest =>
    if b < 0x80 then .character (Char.ofNat b.toNat) rest
    else
      match lead? b, rest with
      | some (v, low, high, more), second :: rest' =>
        if low ≤ second && second ≤ high then tails more (v * 64 + payload second) rest'
        else .illFormed rest
      | _, _ => .illFormed rest

/-- What is left after a step. -/
def Front.rest : Front → Bytes
  | .character _ rest => rest
  | .illFormed rest => rest
  | .empty => []

theorem tails_rest_length (n v : Nat) (s : Bytes) : (tails n v s).rest.length ≤ s.length := by
  induction s generalizing n v with
  | nil => cases n <;> simp [tails, Front.rest]
  | cons b rest ih =>
    cases n with
    | zero => simp [tails, Front.rest]
    | succ n =>
      simp only [tails]
      split
      · exact Nat.le_succ_of_le (ih n _)
      · simp [Front.rest]

/-- Every step consumes a byte. -/
theorem step_rest_length (b : UInt8) (s : Bytes) : (step (b :: s)).rest.length ≤ s.length := by
  simp only [step]
  split
  · simp [Front.rest]
  · split
    · rename_i second rest' _
      split
      · exact Nat.le_succ_of_le (tails_rest_length _ _ _)
      · simp [Front.rest]
    · simp [Front.rest]

/-! ## Readers and writer -/

/-- Decoding with `fuel` steps: the characters, with `none` for each ill-formed piece. -/
def pieces : Nat → Bytes → List (Option Char)
  | 0, _ => []
  | fuel + 1, s =>
    match step s with
    | .character c rest => some c :: pieces fuel rest
    | .illFormed rest => none :: pieces fuel rest
    | .empty => []

/-- The characters of well-formed UTF-8; nothing for any other byte string. -/
def decode? (s : Bytes) : Option (List Char) :=
  (pieces s.length s).mapM id

/-- The characters of a byte string, with U+FFFD for each maximal ill-formed piece. -/
def decodeLossy (s : Bytes) : List Char :=
  (pieces s.length s).map (·.getD '\uFFFD')

/-- The bytes of a text. -/
def encode (s : List Char) : Bytes := s.flatMap String.utf8EncodeChar

@[simp] theorem encode_nil : encode [] = [] := rfl

@[simp] theorem encode_append (s t : List Char) : encode (s ++ t) = encode s ++ encode t := by
  simp [encode]

end Utf8

/-- The bytes of a text. -/
def textBytes (s : String) : Bytes := Utf8.encode s.toList

/-- Bytes shown as text, with U+FFFD for each maximal ill-formed piece. -/
def lossyText (s : Bytes) : String := String.ofList (Utf8.decodeLossy s)

end CloudClient
