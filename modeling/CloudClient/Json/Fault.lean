import CloudClient.Json.Value

/-!
# Faults of JSON texts

When a text that should be kept as a value is no JSON, `Fault.find?` tells what is wrong first, and
where: it goes through the text from the front, with the open containers on a stack, and stops at
the first flaw. `Fault.text` is the wording.

A flaw is placed after the last byte that was read, or after the byte that was looked at and should
not be there.
-/

namespace CloudClient.Json

/-- What can be wrong with a JSON text. -/
inductive Flaw where
  /-- the text ends where a value should be -/
  | endInValue
  /-- the text ends in an array -/
  | endInArray
  /-- the text ends in an object -/
  | endInObject
  /-- the text ends in a string -/
  | endInString
  /-- a colon should be here -/
  | expectedColon
  /-- a comma or the end of the array should be here -/
  | expectedArrayEnd
  /-- a comma or the end of the object should be here -/
  | expectedObjectEnd
  /-- a word is misspelt -/
  | expectedWord
  /-- a value should be here -/
  | expectedValue
  /-- the name of a member should be here -/
  | expectedName
  /-- no value may follow a comma at the end -/
  | trailingComma
  /-- nothing may follow the value -/
  | trailingText
  /-- an escape that there is not -/
  | badEscape
  /-- half of a surrogate pair without the other half -/
  | loneSurrogate
  /-- no escape where the second half of a surrogate pair should be -/
  | brokenSurrogate
  /-- a raw control character in a string -/
  | controlCharacter
  /-- a string that is not UTF-8 -/
  | badCharacter
  /-- a numeral that is none -/
  | badNumber
  /-- a number that is too large -/
  | numberOutOfRange
  /-- too many open containers -/
  | tooDeep
  deriving DecidableEq

/-- The wording of a flaw. -/
def Flaw.text : Flaw → String
  | endInValue => "EOF while parsing a value"
  | endInArray => "EOF while parsing a list"
  | endInObject => "EOF while parsing an object"
  | endInString => "EOF while parsing a string"
  | expectedColon => "expected \x60:\x60"
  | expectedArrayEnd => "expected \x60,\x60 or \x60]\x60"
  | expectedObjectEnd => "expected \x60,\x60 or \x60\x7d\x60"
  | expectedWord => "expected ident"
  | expectedValue => "expected value"
  | expectedName => "key must be a string"
  | trailingComma => "trailing comma"
  | trailingText => "trailing characters"
  | badEscape => "invalid escape"
  | loneSurrogate => "lone leading surrogate in hex escape"
  | brokenSurrogate => "unexpected end of hex escape"
  | controlCharacter =>
    "control character (\\u0000-\\u001F) found while parsing a string"
  | badCharacter => "invalid unicode code point"
  | badNumber => "invalid number"
  | numberOutOfRange => "number out of range"
  | tooDeep => "recursion limit exceeded"

/-! ## Going through a text -/

/-- A place in a text. -/
structure Cursor where
  /-- what comes next -/
  rest : Bytes
  /-- how many bytes were read -/
  offset : Nat

/-- A flaw, and the number of bytes up to it. -/
structure Mark where
  /-- the flaw -/
  flaw : Flaw
  /-- the number of bytes -/
  offset : Nat
  deriving DecidableEq

/-- What is read of a text, or the flaw that is met. -/
abbrev Scan (α : Type) := Except Mark α

namespace Cursor

/-- The place after so many more bytes. -/
def skip (n : Nat) (c : Cursor) : Cursor := ⟨c.rest.drop n, c.offset + n⟩

/-- A flaw after the last byte that was read. -/
def flawed {α : Type} (c : Cursor) (flaw : Flaw) : Scan α := .error ⟨flaw, c.offset⟩

/-- A flaw after the byte that comes next, if there is one. -/
def flawedNext {α : Type} (c : Cursor) (flaw : Flaw) : Scan α :=
  .error ⟨flaw, c.offset + min 1 c.rest.length⟩

/-- The character that comes next. -/
def next? (c : Cursor) : Option Char := c.rest.head?.map Char.ofUInt8

/-- The place after all that fits the class. -/
def skipWhile (fits : Char → Bool) (c : Cursor) : Cursor :=
  c.skip (c.rest.takeWhile fun b => fits (Char.ofUInt8 b)).length

/-- The place after the blanks. -/
def skipBlanks (c : Cursor) : Cursor := c.skipWhile Token.isBlank

/-! ## Words and numerals -/

/-- Goes through the rest of a word. -/
def word (c : Cursor) : List Char → Scan Cursor
  | [] => .ok c
  | letter :: letters =>
    match c.next? with
    | none => c.flawed .endInValue
    | some d => if d = letter then word (c.skip 1) letters else (c.skip 1).flawed .expectedWord

/-- Goes through the whole part of a numeral. -/
def wholePart (c : Cursor) : Scan Cursor :=
  match c.next? with
  | none => c.flawed .endInValue
  | some '0' =>
    let c := c.skip 1
    if c.next?.any Char.isDigit then c.flawedNext .badNumber else .ok c
  | some d => if d.isDigit then .ok (c.skipWhile Char.isDigit) else (c.skip 1).flawed .badNumber

/-- Goes through the fraction of a numeral, if there is one. -/
def fractionPart (c : Cursor) : Scan Cursor :=
  if c.next? = some '.' then
    let c := c.skip 1
    match c.next? with
    | none => c.flawedNext .endInValue
    | some d => if d.isDigit then .ok (c.skipWhile Char.isDigit) else c.flawedNext .badNumber
  else .ok c

/-- The digits of a power, with the number that they denote, up to the one that makes it too large
for any double. -/
def powerDigits (limit : Nat) (c : Cursor) : Cursor :=
  let digits := c.rest.takeWhile fun b => (Char.ofUInt8 b).isDigit
  let prefixes := (List.range digits.length).map fun n => digits.take (n + 1)
  match prefixes.find? fun p => limit < Decimal.value (p.map Char.ofUInt8) with
  | some p => c.skip p.length
  | none => c.skip digits.length

/-- The greatest power that is looked at before the number is known to be too large. -/
def powerLimit : Nat := 0x7FFF_FFFF

/-- Goes through the power of a numeral, if there is one. The numeral begins at `start`. -/
def powerPart (start c : Cursor) : Scan Cursor :=
  match c.next? with
  | none => .ok c
  | some e =>
    if e = 'e' ∨ e = 'E' then
      let c := c.skip 1
      let isNegative := c.next? = some '-'
      let c := if isNegative ∨ c.next? = some '+' then c.skip 1 else c
      match c.next? with
      | none => c.flawed .endInValue
      | some d =>
        if d.isDigit then
          let significand := start.rest.take (c.offset - start.offset)
          let isZero := significand.all fun b => !('1' ≤ Char.ofUInt8 b && Char.ofUInt8 b ≤ '9')
          let all := c.skipWhile Char.isDigit
          let c := if isNegative ∨ isZero then all else powerDigits powerLimit c
          if c.offset < all.offset then c.flawed .numberOutOfRange else .ok all
        else (c.skip 1).flawed .badNumber
    else .ok c

/-- Goes through a numeral. -/
def numeral (start : Cursor) : Scan Cursor := do
  let c := if start.next? = some '-' then start.skip 1 else start
  let c ← wholePart c
  let c ← fractionPart c
  let c ← powerPart start c
  let run := (start.rest.take (c.offset - start.offset)).map Char.ofUInt8
  match Numeral.parse? run >>= Numeral.number? with
  | some _ => .ok c
  | none => c.flawed .numberOutOfRange

/-! ## Strings -/

/-- Goes through four hexadecimal digits, and gives the code unit that they denote. -/
def codeUnit (c : Cursor) : Scan (Nat × Cursor) :=
  match (c.rest.take 4).map Char.ofUInt8 with
  | [x, y, z, w] =>
    if [x, y, z, w].all Token.isHexDigit then .ok (Quoted.unit x y z w, c.skip 4)
    else (c.skip 4).flawed .badEscape
  | _ => (c.skip c.rest.length).flawed .endInString

/-- Goes past a character that has to be there within a surrogate pair. -/
def surrogateMark (c : Cursor) (mark : Char) : Scan Cursor :=
  match c.next? with
  | none => c.flawed .endInString
  | some d => if d = mark then .ok (c.skip 1) else (c.skip 1).flawed .brokenSurrogate

/-- Goes through an escape, after its backslash. -/
def escape (c : Cursor) : Scan Cursor :=
  match c.next? with
  | none => c.flawed .endInString
  | some 'u' => do
    let (high, c) ← codeUnit (c.skip 1)
    if Quoted.isLow high then c.flawed .loneSurrogate
    else if Quoted.isHigh high then
      let c ← surrogateMark c '\\'
      let c ← surrogateMark c 'u'
      let (low, c) ← codeUnit c
      if Quoted.isLow low then .ok c else c.flawed .loneSurrogate
    else .ok c
  | some d => if Token.isSimpleEscape d then .ok (c.skip 1) else (c.skip 1).flawed .badEscape

/-- Goes through a string, after its first quote, which is at `start`; in at most so many steps. -/
def quoted (start : Cursor) : Nat → Cursor → Scan Cursor
  | 0, c => c.flawed .endInString
  | fuel + 1, c =>
    match c.rest with
    | [] => c.flawed .endInString
    | b :: _ =>
      let d := Char.ofUInt8 b
      if d = '"' then
        let content := start.rest.take (c.offset - start.offset)
        if (Quoted.decode? content).isSome then .ok (c.skip 1)
        else (c.skip 1).flawed .badCharacter
      else if d = '\\' then do
        let c ← escape (c.skip 1)
        quoted start fuel c
      else if b < 0x20 then (c.skip 1).flawed .controlCharacter
      else quoted start fuel (c.skip 1)

/-- Goes through a string, after its first quote. -/
def string (c : Cursor) : Scan Cursor := quoted c (c.rest.length + 1) c

end Cursor

/-! ## Containers -/

/-- An open container. -/
inductive Opened where
  /-- an array -/
  | array
  /-- an object -/
  | object
  deriving DecidableEq

/-- What has to come next. -/
inductive Place where
  /-- a value -/
  | value
  /-- the first element of an array, or its end -/
  | firstElement
  /-- an element of an array, after a comma -/
  | element
  /-- the first name in an object, or its end -/
  | firstName
  /-- a name in an object, after a comma -/
  | name
  /-- the colon after a name -/
  | colon
  /-- whatever follows a value -/
  | after

/-- The open containers, the innermost first, and what has to come next. -/
abbrev State := List Opened × Place

namespace Cursor

/-- Goes through a value, or opens the container that it is. -/
def valueStep (opened : List Opened) (c : Cursor) : Scan (State × Cursor) := do
  let closed (c : Cursor) : State × Cursor := ((opened, .after), c)
  match c.next? with
  | none => c.flawedNext .endInValue
  | some 'n' => return closed (← (c.skip 1).word "ull".toList)
  | some 't' => return closed (← (c.skip 1).word "rue".toList)
  | some 'f' => return closed (← (c.skip 1).word "alse".toList)
  | some '"' => return closed (← (c.skip 1).string)
  | some '[' =>
    if opened.length < Value.depthLimit then
      return ((.array :: opened, .firstElement), c.skip 1)
    else c.flawedNext .tooDeep
  | some '\x7b' =>
    if opened.length < Value.depthLimit then
      return ((.object :: opened, .firstName), c.skip 1)
    else c.flawedNext .tooDeep
  | some d =>
    if d = '-' ∨ d.isDigit then return closed (← c.numeral) else c.flawedNext .expectedValue

/-- Goes through the name of a member. -/
def nameStep (opened : List Opened) (c : Cursor) : Scan (State × Cursor) := do
  return ((opened, .colon), ← (c.skip 1).string)

/-- One step through a text, at a byte that is no blank or at the end; nothing after the last
one. -/
def step (c : Cursor) : State → Scan (Option (State × Cursor))
  | (opened, .value) => do return some (← c.valueStep opened)
  | (opened, .firstElement) =>
    match c.next? with
    | none => c.flawedNext .endInArray
    | some ']' => return some ((opened.tail, .after), c.skip 1)
    | some _ => do return some (← c.valueStep opened)
  | (opened, .element) =>
    match c.next? with
    | some ']' => c.flawedNext .trailingComma
    | _ => do return some (← c.valueStep opened)
  | (opened, .firstName) =>
    match c.next? with
    | none => c.flawedNext .endInObject
    | some '\x7d' => return some ((opened.tail, .after), c.skip 1)
    | some '"' => do return some (← c.nameStep opened)
    | some _ => c.flawedNext .expectedName
  | (opened, .name) =>
    match c.next? with
    | none => c.flawedNext .endInValue
    | some '\x7d' => c.flawedNext .trailingComma
    | some '"' => do return some (← c.nameStep opened)
    | some _ => c.flawedNext .expectedName
  | (opened, .colon) =>
    match c.next? with
    | none => c.flawedNext .endInObject
    | some ':' => return some ((opened, .value), c.skip 1)
    | some _ => c.flawedNext .expectedColon
  | ([], .after) => if c.rest.isEmpty then return none else c.flawedNext .trailingText
  | (.array :: opened, .after) =>
    match c.next? with
    | none => c.flawedNext .endInArray
    | some ']' => return some ((opened, .after), c.skip 1)
    | some ',' => return some ((.array :: opened, .element), c.skip 1)
    | some _ => c.flawedNext .expectedArrayEnd
  | (.object :: opened, .after) =>
    match c.next? with
    | none => c.flawedNext .endInObject
    | some '\x7d' => return some ((opened, .after), c.skip 1)
    | some ',' => return some ((.object :: opened, .name), c.skip 1)
    | some _ => c.flawedNext .expectedObjectEnd

/-- Goes through a text in at most so many steps. -/
def run : Nat → State → Cursor → Scan Unit
  | 0, _, _ => .ok ()
  | fuel + 1, s, c => do
    match ← c.skipBlanks.step s with
    | none => return ()
    | some (s, c) => run fuel s c

end Cursor

/-! ## Faults -/

/-- A flaw, with the line it is in and its column; columns are counted in bytes. -/
structure Fault where
  /-- the flaw -/
  flaw : Flaw
  /-- the line; the first one is line 1 -/
  line : Nat
  /-- how many bytes of the line there are up to the flaw -/
  column : Nat
  deriving DecidableEq

namespace Fault

/-- The fault at a mark in a text. -/
def ofMark (s : Bytes) (m : Mark) : Fault :=
  let before := s.take m.offset
  let isBreak (b : UInt8) : Bool := b == 0x0A
  ⟨m.flaw, 1 + before.countP isBreak, (before.reverse.takeWhile fun b => !isBreak b).length⟩

/-- The first fault of a text. -/
def find? (s : Bytes) : Option Fault :=
  match Cursor.run (s.length + 1) ([], .value) ⟨s, 0⟩ with
  | .ok _ => none
  | .error m => some (ofMark s m)

/-- The wording of a fault. -/
def text (f : Fault) : String :=
  f.flaw.text ++ " at line " ++ Decimal.natText f.line ++ " column " ++ Decimal.natText f.column

end Fault

end CloudClient.Json
