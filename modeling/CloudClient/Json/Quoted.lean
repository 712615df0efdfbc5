import CloudClient.Json.Token

/-!
# Strings of a JSON text

What stands between the quotes of a string is UTF-8 with escapes. `Quoted.decode?` gives the text
it denotes, and nothing if the bytes are not UTF-8 or an escape names half of a surrogate pair.
`Quoted.encode` writes a text with the fewest escapes: quotes, backslashes and control characters
have one, and everything else stands for itself.
-/

namespace CloudClient.Json.Quoted

/-! ## Reading -/

/-- The value of a hexadecimal digit. -/
def hexValue (c : Char) : Nat :=
  if c.isDigit then c.toNat - '0'.toNat
  else if 'a' ≤ c then c.toNat - 'a'.toNat + 10
  else c.toNat - 'A'.toNat + 10

/-- The code unit that four hexadecimal digits denote. -/
def unit (a b c d : Char) : Nat :=
  ((hexValue a * 16 + hexValue b) * 16 + hexValue c) * 16 + hexValue d

/-- The character that a backslash and one more character stand for. -/
def simpleEscape? : Char → Option Char
  | '"' => some '"'
  | '\\' => some '\\'
  | '/' => some '/'
  | 'b' => some '\x08'
  | 'f' => some '\x0c'
  | 'n' => some '\n'
  | 'r' => some '\r'
  | 't' => some '\t'
  | _ => none

/-- Is the code unit the first half of a surrogate pair? -/
def isHigh (u : Nat) : Bool := 0xD800 ≤ u && u < 0xDC00

/-- Is the code unit the second half of a surrogate pair? -/
def isLow (u : Nat) : Bool := 0xDC00 ≤ u && u < 0xE000

/-- Resolves the escapes of a text. -/
def unescape? : List Char → Option (List Char)
  | [] => some []
  | '\\' :: 'u' :: a :: b :: c :: d :: s =>
    let high := unit a b c d
    if isLow high then none
    else if isHigh high then
      match s with
      | '\\' :: 'u' :: a' :: b' :: c' :: d' :: s' =>
        let low := unit a' b' c' d'
        if isLow low then
          (unescape? s').map (Char.ofNat (0x10000 + (high - 0xD800) * 1024 + (low - 0xDC00)) :: ·)
        else none
      | _ => none
    else (unescape? s).map (Char.ofNat high :: ·)
  | '\\' :: c :: s =>
    match simpleEscape? c with
    | some c' => (unescape? s).map (c' :: ·)
    | none => none
  | c :: s => (unescape? s).map (c :: ·)

/-- The text that a string denotes. -/
def decode? (quoted : Bytes) : Option String := do
  let escaped ← Utf8.decode? quoted
  let text ← unescape? escaped
  return String.ofList text

/-! ## Writing -/

/-- A hexadecimal digit in lower case. -/
def hexDigit (n : Nat) : Char := Nat.digitChar n

/-- A character as it is written in a string. -/
def escape (c : Char) : List Char :=
  match c with
  | '"' => ['\\', '"']
  | '\\' => ['\\', '\\']
  | '\x08' => ['\\', 'b']
  | '\x0c' => ['\\', 'f']
  | '\n' => ['\\', 'n']
  | '\r' => ['\\', 'r']
  | '\t' => ['\\', 't']
  | c =>
    if c.toNat < 0x20 then
      ['\\', 'u', '0', '0', hexDigit (c.toNat / 16), hexDigit (c.toNat % 16)]
    else [c]

/-- The bytes of a text between quotes. -/
def encode (s : String) : Bytes := Utf8.encode (s.toList.flatMap escape)

end CloudClient.Json.Quoted
