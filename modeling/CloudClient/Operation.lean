import CloudClient.Text.Parts

/-!
# Operation labels

Requests are counted by operation. The label of an operation is the path of its URL with the ids
masked: the version in front is dropped, and every number becomes a hyphen. So the requests for two
servers count as one operation.
-/

namespace CloudClient.Operation

/-- Is the segment a number? -/
def isNumeric (segment : List Char) : Bool := segment.all Char.isDigit

/-- Is the segment the version of the API, `v` and a number? -/
def isVersion : List Char → Bool
  | 'v' :: digits => !digits.isEmpty && isNumeric digits
  | _ => false

/-- A segment with a hyphen in place of a number. -/
def mask (segment : List Char) : List Char := if isNumeric segment then ['-'] else segment

/-- The segments without a version in front. -/
def dropVersion : List (List Char) → List (List Char)
  | segment :: rest => if isVersion segment then rest else segment :: rest
  | [] => []

/-- The masked segments of a path: those before the query that are not empty. -/
def maskedSegments (path : List Char) : List (List Char) :=
  (dropVersion ((partsAt '/' (path.takeWhile (· ≠ '?'))).filter (!·.isEmpty))).map mask

/-- Segments with a slash in front of each, or a slash alone. -/
def joined (segments : List (List Char)) : List Char :=
  if segments.isEmpty then ['/'] else segments.flatMap ('/' :: ·)

/-- The label of the operation with this path. -/
def label (path : String) : String := String.ofList (joined (maskedSegments path.toList))

end CloudClient.Operation
