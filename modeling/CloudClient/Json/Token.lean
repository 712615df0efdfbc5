import CloudClient.Text.Utf8
import CloudClient.Json.Numeral

/-!
# Tokens of a JSON text

`Token.lex` cuts the bytes of a JSON text into tokens and drops the blanks between them. It reads
one byte at a time; its `Mode` says what it is in the middle of. Numbers and words are runs of
letters, digits, signs and points, and are told apart when the run ends.

Inside a string the text is only checked for its escapes and for raw control characters; what the
string says is decoded where it is asked for. `Token.render` writes a token.
-/

namespace CloudClient.Json

/-- A token of a JSON text. -/
inductive Token where
  /-- the bracket that opens an array -/
  | beginArray
  /-- the bracket that closes an array -/
  | endArray
  /-- the brace that opens an object -/
  | beginObject
  /-- the brace that closes an object -/
  | endObject
  /-- the separator of elements and members -/
  | comma
  /-- the separator of a member's name and value -/
  | colon
  /-- the word null -/
  | null
  /-- the words true and false -/
  | bool (b : Bool)
  /-- a numeral as it is written -/
  | number (numeral : List Char)
  /-- what stands between the quotes of a string -/
  | string (quoted : Bytes)
  deriving DecidableEq

namespace Token

/-! ## Classes of bytes -/

/-- The byte of an ASCII character. -/
abbrev byte (c : Char) : UInt8 := c.toUInt8

/-- The four blanks of JSON. -/
def isBlank (c : Char) : Bool := c == ' ' || c == '\t' || c == '\n' || c == '\r'

/-- The characters of numerals and words. -/
def isBare (c : Char) : Bool := c.isAlphanum || c == '+' || c == '-' || c == '.'

/-- The characters that may follow a backslash on their own. -/
def isSimpleEscape (c : Char) : Bool := "\"\\/bfnrt".toList.contains c

/-- Is the character a hexadecimal digit? -/
def isHexDigit (c : Char) : Bool :=
  c.isDigit || ('a' ≤ c && c ≤ 'f') || ('A' ≤ c && c ≤ 'F')

/-- The token that a bracket, brace or separator is. -/
def punctuation? : Char → Option Token
  | '[' => some beginArray
  | ']' => some endArray
  | '\x7b' => some beginObject
  | '\x7d' => some endObject
  | ',' => some comma
  | ':' => some colon
  | _ => none

/-- The token that a run of bare characters is. -/
def ofBare? (run : List Char) : Option Token :=
  if run = "null".toList then some null
  else if run = "true".toList then some (bool true)
  else if run = "false".toList then some (bool false)
  else if (Numeral.parse? run).isSome then some (number run)
  else none

/-! ## Reading -/

/-- What a reader of a JSON text is in the middle of; what it has read of it is kept in reverse. -/
inductive Mode where
  /-- between two tokens -/
  | between
  /-- in a run of bare characters -/
  | bare (run : List Char)
  /-- in a string -/
  | quoted (content : Bytes)
  /-- in a string, after a backslash -/
  | escape (content : Bytes)
  /-- in a string, with so many hexadecimal digits of an escape to come -/
  | hexadecimal (digits : Nat) (content : Bytes)

/-- The tokens of a text; nothing if it has an ill-formed one. -/
def lexFrom : Mode → Bytes → Option (List Token)
  | .between, [] => some []
  | .between, b :: s =>
    let c := Char.ofUInt8 b
    if isBlank c then lexFrom .between s
    else if c = '"' then lexFrom (.quoted []) s
    else if isBare c then lexFrom (.bare [c]) s
    else
      match punctuation? c with
      | some t => (lexFrom .between s).map (t :: ·)
      | none => none
  | .bare run, [] => (ofBare? run.reverse).map ([·])
  | .bare run, b :: s =>
    let c := Char.ofUInt8 b
    if isBare c then lexFrom (.bare (c :: run)) s
    else
      match ofBare? run.reverse with
      | none => none
      | some t =>
        if isBlank c then (lexFrom .between s).map (t :: ·)
        else
          match punctuation? c with
          | some p => (lexFrom .between s).map (t :: p :: ·)
          | none => none
  | .quoted _, [] => none
  | .quoted content, b :: s =>
    let c := Char.ofUInt8 b
    if c = '"' then (lexFrom .between s).map (string content.reverse :: ·)
    else if c = '\\' then lexFrom (.escape (b :: content)) s
    else if b < 0x20 then none
    else lexFrom (.quoted (b :: content)) s
  | .escape _, [] => none
  | .escape content, b :: s =>
    let c := Char.ofUInt8 b
    if isSimpleEscape c then lexFrom (.quoted (b :: content)) s
    else if c = 'u' then lexFrom (.hexadecimal 4 (b :: content)) s
    else none
  | .hexadecimal _ _, [] => none
  | .hexadecimal digits content, b :: s =>
    if isHexDigit (Char.ofUInt8 b) then
      if digits ≤ 1 then lexFrom (.quoted (b :: content)) s
      else lexFrom (.hexadecimal (digits - 1) (b :: content)) s
    else none

/-- The tokens of a JSON text; nothing if it has an ill-formed one. -/
def lex (s : Bytes) : Option (List Token) := lexFrom .between s

/-! ## Writing -/

/-- The bytes of a token. -/
def render : Token → Bytes
  | beginArray => [byte '[']
  | endArray => [byte ']']
  | beginObject => [byte '\x7b']
  | endObject => [byte '\x7d']
  | comma => [byte ',']
  | colon => [byte ':']
  | null => textBytes "null"
  | bool true => textBytes "true"
  | bool false => textBytes "false"
  | number numeral => Utf8.encode numeral
  | string quoted => byte '"' :: quoted ++ [byte '"']

end Token

end CloudClient.Json
