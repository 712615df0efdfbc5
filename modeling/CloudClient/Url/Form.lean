import CloudClient.Text.Parts
import CloudClient.Url.Percent

/-!
# Form encoding of parameters

The parameters of a query are written as `key=value` and joined by `&`. In keys and values a blank
becomes a plus sign, and all but letters, digits and `*-._` is percent-encoded.

`Form.decode` is the reader for what `Form.encode` writes: it splits at `&`, then at the first `=`.
-/

namespace CloudClient.Form

/-! ## Writing -/

/-- Does the character stand for itself? -/
def isPlain (c : Char) : Bool := c.isAlphanum || "*-._".toList.contains c

/-- A character of a key or a value. -/
def encodeChar (c : Char) : List Char :=
  if c = ' ' then ['+'] else Percent.encodeChar (fun c => !isPlain c) c

/-- A key or a value. -/
def encodeText (s : String) : List Char := s.toList.flatMap encodeChar

/-- A parameter. -/
def encodePair (p : String × String) : List Char := encodeText p.1 ++ '=' :: encodeText p.2

/-- Parameters. -/
def encode (pairs : List (String × String)) : List Char := joinWith '&' (pairs.map encodePair)

/-! ## Reading -/

/-- A key or a value. -/
def decodeText (s : List Char) : String :=
  lossyText (Percent.decode (s.map fun c => if c = '+' then ' ' else c))

/-- A parameter; one without `=` has an empty value. -/
def decodePair (s : List Char) : String × String :=
  (decodeText (s.takeWhile (· ≠ '=')), decodeText ((s.dropWhile (· ≠ '=')).drop 1))

/-- The parameters of a query. Empty parts are none. -/
def decode (s : List Char) : List (String × String) :=
  ((partsAt '&' s).filter (!·.isEmpty)).map decodePair

end CloudClient.Form
