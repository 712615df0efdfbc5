import CloudClient.Text.Parts

/-!
# Runs of code points

Properties of characters are kept in lines of words with blanks between them. A word names a code
point, or the first and the last one of a run, in hexadecimal: `61`, `61-7a`; in a run like
`100~12e` only every second code point counts. After a colon follows what the property says about
the run. `Run.read` takes such lines apart.
-/

namespace CloudClient.Unicode

/-- A run of code points, and what is said about them. -/
structure Run where
  /-- the first code point -/
  first : Nat
  /-- the last code point -/
  last : Nat
  /-- does only every second code point count? -/
  skips : Bool
  /-- what is said -/
  value : List Char

namespace Run

/-- The value of a hexadecimal digit in lower case. -/
def digit (c : Char) : Nat :=
  if c.isDigit then c.toNat - '0'.toNat else c.toNat - 'a'.toNat + 10

/-- The number that hexadecimal digits denote. -/
def number (s : List Char) : Nat := s.foldl (fun n c => n * 16 + digit c) 0

/-- The numbers that are written with points between them. -/
def numbers (s : List Char) : List Nat :=
  if s.isEmpty then [] else (partsAt '.' s).map number

/-- The run that a word describes. -/
def ofWord (word : List Char) : Run :=
  let range := word.takeWhile (· ≠ ':')
  let value := (word.dropWhile (· ≠ ':')).drop 1
  let first := range.takeWhile fun c => c ≠ '-' && c ≠ '~'
  match range.dropWhile fun c => c ≠ '-' && c ≠ '~' with
  | mark :: last => ⟨number first, number last, mark == '~', value⟩
  | [] => ⟨number first, number first, false, value⟩

/-- The runs that lines of words describe. -/
def read (lines : List String) : List Run :=
  lines.flatMap fun line => (partsAt ' ' line.toList).map ofWord

/-- Is the character in the run? -/
def contains (r : Run) (c : Char) : Bool :=
  r.first ≤ c.toNat && c.toNat ≤ r.last && (!r.skips || (c.toNat - r.first) % 2 == 0)

/-- The run that a character is in, if there is one. -/
def find? (runs : List Run) (c : Char) : Option Run := runs.find? (·.contains c)

/-- Is the character in one of the runs? -/
def covers (runs : List Run) (c : Char) : Bool := runs.any (·.contains c)

end Run

end CloudClient.Unicode
