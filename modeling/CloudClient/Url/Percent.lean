import CloudClient.Text.Utf8

/-!
# Percent encoding

A byte that may not stand in a part of a URL is written as a percent sign and two hexadecimal
digits. Each part has a set of ASCII characters that are encoded in it; everything outside of ASCII
is encoded everywhere.
-/

namespace CloudClient.Percent

/-! ## Sets of characters to encode -/

/-- A set of characters. -/
abbrev CharSet := Char → Bool

/-- The control characters, and everything outside of ASCII. -/
def controls : CharSet := fun c => c.toNat < 0x20 || 0x7E < c.toNat

/-- What is encoded in a fragment. -/
def fragmentSet : CharSet := fun c => controls c || " \"<>`".toList.contains c

/-- What is encoded in a path. -/
def pathSet : CharSet := fun c => fragmentSet c || "#?\x7b\x7d".toList.contains c

/-- What is encoded in a user name or a password. -/
def userinfoSet : CharSet := fun c => pathSet c || "/:;=@[\\]^|".toList.contains c

/-- What is encoded in a query. -/
def querySet : CharSet := fun c => controls c || " \"#<>".toList.contains c

/-- What is encoded in the query of a URL with a special scheme. -/
def specialQuerySet : CharSet := fun c => querySet c || c == '\''

/-! ## Encoding -/

/-- A hexadecimal digit in upper case. -/
def hexDigit (n : Nat) : Char := (Nat.digitChar n).toUpper

/-- A byte as a percent sign and two digits. -/
def encodeByte (b : UInt8) : List Char := ['%', hexDigit (b.toNat / 16), hexDigit (b.toNat % 16)]

/-- A character as it stands where the characters of `set` are encoded. -/
def encodeChar (set : CharSet) (c : Char) : List Char :=
  if set c then (String.utf8EncodeChar c).flatMap encodeByte else [c]

/-- A text as it stands where the characters of `set` are encoded. -/
def encode (set : CharSet) (s : List Char) : List Char := s.flatMap (encodeChar set)

/-! ## Decoding -/

/-- The value of a hexadecimal digit. -/
def hexValue? (c : Char) : Option Nat :=
  if c.isDigit then some (c.toNat - '0'.toNat)
  else if 'a' ≤ c ∧ c ≤ 'f' then some (c.toNat - 'a'.toNat + 10)
  else if 'A' ≤ c ∧ c ≤ 'F' then some (c.toNat - 'A'.toNat + 10)
  else none

/-- The byte that two hexadecimal digits denote. -/
def byte? (high low : Char) : Option UInt8 := do
  return UInt8.ofNat ((← hexValue? high) * 16 + (← hexValue? low))

/-- The bytes that a text denotes. A percent sign without two digits after it stands for
itself. -/
def decode : List Char → Bytes
  | [] => []
  | '%' :: high :: low :: s =>
    match byte? high low with
    | some b => b :: decode s
    | none => String.utf8EncodeChar '%' ++ decode (high :: low :: s)
  | c :: s => String.utf8EncodeChar c ++ decode s

end CloudClient.Percent
