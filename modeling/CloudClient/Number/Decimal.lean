/-!
# Decimal numbers

Whole numbers are written with the standard library's digits, most significant first and without
leading zeros. Reading goes through `Decimal.nat?`; the text forms differ only in what may stand
before the digits and in the range, so the readers for headers and for words are filters of it.
-/

namespace CloudClient.Decimal

/-! ## Writing -/

/-- The digits of a number. -/
def ofNat (n : Nat) : List Char := Nat.toDigits 10 n

/-- The digits of a number, with a minus sign in front of a negative one. -/
def ofInt : Int → List Char
  | .ofNat n => ofNat n
  | .negSucc n => '-' :: ofNat (n + 1)

/-- The digits of a number, filled up with zeros in front to at least `width` places. -/
def padded (width n : Nat) : List Char :=
  let digits := ofNat n
  List.replicate (width - digits.length) '0' ++ digits

/-- The text of a number. -/
def natText (n : Nat) : String := String.ofList (ofNat n)

/-- The text of a number, with a minus sign in front of a negative one. -/
def intText (n : Int) : String := String.ofList (ofInt n)

/-! ## Reading -/

/-- The number that digits denote. -/
def value (digits : List Char) : Nat := Nat.ofDigitChars 10 digits 0

/-- Reads one digit or more, and nothing else. -/
def nat? (s : List Char) : Option Nat :=
  if s ≠ [] ∧ s.all Char.isDigit then some (value s) else none

/-- One more than the greatest 64-bit word. -/
def wordSize : Nat := 0x1_0000_0000_0000_0000

/-- Reads a 64-bit word: digits, with a plus sign in front or none. -/
def word? (s : List Char) : Option Nat :=
  match s with
  | '+' :: digits => (nat? digits).filter (· < wordSize)
  | digits => (nat? digits).filter (· < wordSize)

/-- Written digits are digits. -/
theorem isDigit_of_mem_ofNat {n : Nat} {c : Char} (h : c ∈ ofNat n) : c.isDigit = true :=
  Nat.isDigit_of_mem_toDigits (by decide) (by decide) h

/-- A written number is read back. -/
theorem nat?_ofNat (n : Nat) : nat? (ofNat n) = some n := by
  have hall : (ofNat n).all Char.isDigit = true :=
    List.all_eq_true.2 fun _ h => isDigit_of_mem_ofNat h
  rw [nat?, if_pos ⟨Nat.toDigits_ne_nil, hall⟩]
  simp [value, ofNat]

end CloudClient.Decimal
