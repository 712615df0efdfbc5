import CloudClient.Text.Utf8

/-!
# Header fields

A `Headers` keeps the names of header fields in the order of their first insertion, each with all
its values in their order. Names are compared without regard to case, and kept in lower case.

* `Headers.append` adds a value to a name, `Headers.insert` replaces all values of a name.
* `Headers.text?` looks up the first value of a name as text.
-/

namespace CloudClient.Http

/-- The name of a header field, in lower case. -/
abbrev HeaderName := String

/-! ## Well-formed names and values -/

namespace HeaderName

/-- The characters of a name other than letters and digits. -/
def tokenMarks : List Char :=
  ['!', '#', '$', '%', '&', '\'', '*', '+', '-', '.', '^', '_', '\x60', '|', '~']

/-- May the character stand in a name? -/
def isTokenChar (c : Char) : Bool := c.isAlphanum || tokenMarks.contains c

/-- One more than the length of the longest name. -/
def lengthLimit : Nat := 0x1_0000

/-- The name that a text is, if it is one. -/
def ofText? (s : String) : Option HeaderName :=
  if s ≠ "" ∧ s.toList.all isTokenChar ∧ s.utf8ByteSize < lengthLimit then some s.toLower else none

end HeaderName

/-- The value of a header field. -/
abbrev HeaderValue := Bytes

namespace HeaderValue

/-- May the byte stand in a value? -/
def isValueByte (b : UInt8) : Bool := (0x20 ≤ b && b ≠ 0x7F) || b == 0x09

/-- The value that a text is, if it is one. -/
def ofText? (s : String) : Option HeaderValue :=
  let bytes := textBytes s
  if bytes.all isValueByte then some bytes else none

/-- Is the byte visible in ASCII, or a blank? -/
def isVisible (b : UInt8) : Bool := (0x20 ≤ b && b < 0x7F) || b == 0x09

/-- The value as text, if it is made of visible ASCII and blanks. -/
def text? (v : HeaderValue) : Option String :=
  if v.all isVisible then some (String.ofList (v.map Char.ofUInt8)) else none

end HeaderValue

/-! ## Collections -/

/-- Header fields: names in the order of their first insertion, with their values. -/
structure Headers where
  /-- the names and the values of each -/
  fields : List (HeaderName × List HeaderValue)
  deriving DecidableEq

namespace Headers

/-- No header fields. -/
def empty : Headers := ⟨[]⟩

/-- Gives a name the values that `f` makes of those it has; a new name comes last. -/
def alter (name : HeaderName) (f : List HeaderValue → List HeaderValue) :
    List (HeaderName × List HeaderValue) → List (HeaderName × List HeaderValue)
  | [] => [(name, f [])]
  | (n, vs) :: rest => if n = name then (n, f vs) :: rest else (n, vs) :: alter name f rest

/-- Adds a value to a name. -/
def append (h : Headers) (name : HeaderName) (v : HeaderValue) : Headers :=
  ⟨alter name (· ++ [v]) h.fields⟩

/-- Gives a name this value in place of any it has. -/
def insert (h : Headers) (name : HeaderName) (v : HeaderValue) : Headers :=
  ⟨alter name (fun _ => [v]) h.fields⟩

/-- The values of a name. -/
def values (h : Headers) (name : HeaderName) : List HeaderValue :=
  ((h.fields.find? (·.1 == name)).map (·.2)).getD []

/-- Has the name a value? -/
def contains (h : Headers) (name : HeaderName) : Bool := h.fields.any (·.1 == name)

/-- The first value of a name, if there is one. -/
def get? (h : Headers) (name : HeaderName) : Option HeaderValue := (h.values name).head?

/-- The first value of a name as text, if there is one that is visible ASCII. -/
def text? (h : Headers) (name : HeaderName) : Option String := do (← h.get? name).text?

/-- All names with each of their values. -/
def toList (h : Headers) : List (HeaderName × HeaderValue) :=
  h.fields.flatMap fun f => f.2.map fun v => (f.1, v)

/-- The collection to which these have been appended in order. -/
def ofList (pairs : List (HeaderName × HeaderValue)) : Headers :=
  pairs.foldl (fun h p => h.append p.1 p.2) empty

/-- A name that has just been given a value has this one only. -/
theorem values_insert (h : Headers) (name : HeaderName) (v : HeaderValue) :
    (h.insert name v).values name = [v] := by
  obtain ⟨fields⟩ := h
  simp only [values, insert]
  induction fields with
  | nil => simp [alter]
  | cons f rest ih =>
    by_cases hf : f.1 = name
    · simp [alter, hf]
    · simpa [alter, hf] using ih

end Headers

end CloudClient.Http
