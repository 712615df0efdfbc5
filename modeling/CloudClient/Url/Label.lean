import CloudClient.Unicode.Composition
import CloudClient.Unicode.Mapping
import CloudClient.Unicode.Normal
import CloudClient.Unicode.Script
import CloudClient.Url.Punycode

/-!
# Labels of domain names

A label says a text and is written in ASCII. A text outside of ASCII is written in Punycode with a
mark in front. `Label.ofText?` makes a label from either, if the text obeys the rules for labels:

* it is in the form in which names are compared, and has no forbidden characters;
* it does not start with a mark on the character before;
* the invisible joiners stand only where they have an effect.

The rules for names with text from the right to the left concern all labels of a name; see
`Label.isOrdered`.
-/

namespace CloudClient

/-- A label of a domain name. -/
structure Label where
  /-- how it is written, in ASCII -/
  written : List Char
  /-- what it says -/
  text : List Char
  deriving DecidableEq

namespace Label

open Unicode

/-! ## Rules for one label -/

/-- Is the character one that no domain name may hold? -/
def isForbidden (c : Char) : Bool :=
  c.toNat ≤ 0x20 || c.toNat == 0x7F || "%#/:<>?@[\\]^|".toList.contains c

/-- Is every character of the text in ASCII? -/
def isAscii (s : List Char) : Bool := s.all (·.toNat < 0x80)

/-- The invisible character that keeps two letters from joining. -/
def nonJoiner : Char := '\u200c'

/-- The invisible character that joins two letters. -/
def joiner : Char := '\u200d'

/-- The class of the marks that take the vowel off a letter. -/
def viramaClass : Nat := 9

/-- Is the character nearest to a place, not counting transparent ones, one that joins as asked
for? -/
def joins (fits : Joining → Bool) (s : List Char) : Bool :=
  ((s.dropWhile fun c => joining c == .transparent).head?).any fun c => fits (joining c)

/-- May a joiner stand between these texts, of which the first one is in reverse? -/
def joinerFits (c : Char) (before after : List Char) : Bool :=
  before.head?.any (fun d => markClass d == viramaClass) ||
    (c == nonJoiner && joins (fun j => j == .left || j == .dual) before &&
      joins (fun j => j == .right || j == .dual) after)

/-- Do all joiners of a text have an effect? The text goes on after `before`, which is in
reverse. -/
def joinersFit : (before text : List Char) → Bool
  | _, [] => true
  | before, c :: rest =>
    ((c ≠ nonJoiner && c ≠ joiner) || joinerFits c before rest) && joinersFit (c :: before) rest

/-- The length of the longest text that is written in Punycode. -/
def textLimit : Nat := 1000

/-- Does a text obey the rules for a single label? -/
def isText (s : List Char) : Bool :=
  !s.any isForbidden && !(s.head?.any isMark) && joinersFit [] s &&
    (isAscii s || s.length ≤ textLimit)

/-- Is the text in the form in which names are compared? -/
def isMapped (s : List Char) : Bool :=
  s.all (fun c => mapping? c == some [c]) && composedForm s == s

/-! ## Making labels -/

/-- The mark in front of a label that is written in Punycode. -/
def mark : List Char := "xn--".toList

/-- The length of the longest Punycode that is read. -/
def punycodeLimit : Nat := 2000

/-- The text of a label that is written in Punycode. One in ASCII has no need of it. -/
def decode? (punycode : List Char) : Option (List Char) := do
  guard (punycode.length ≤ punycodeLimit)
  let text ← Punycode.decode? punycode
  if isAscii text || !isMapped text then none else some text

/-- The label that a text in the form for comparison is, or is written as. -/
def ofText? (s : List Char) : Option Label := do
  let label ←
    if mark.isPrefixOf s then (decode? (s.drop mark.length)).map fun text => Label.mk s text
    else if isAscii s then some ⟨s, s⟩
    else some ⟨mark ++ Punycode.encode s, s⟩
  if isText label.text then some label else none

/-! ## Directions -/

/-- Does the direction make a name one with text from the right to the left? -/
def isBackward (d : Direction) : Bool := d == .right || d == .arabic || d == .arabicDigit

/-- Has the label text from the right to the left? -/
def hasBackward (l : Label) : Bool := l.text.any fun c => isBackward (direction c)

/-- May the direction stand in a label from the left to the right? -/
def fitsForward (d : Direction) : Bool :=
  [.left, .digit, .sign, .separator, .terminator, .neutral, .boundary, .mark].contains d

/-- May the direction stand in a label from the right to the left? -/
def fitsBackward (d : Direction) : Bool :=
  [.right, .arabic, .arabicDigit, .digit, .sign, .separator, .terminator, .neutral, .boundary,
    .mark].contains d

/-- Are directions ordered as in a label of a name with text from the right to the left? The first
one decides about the whole label; marks at its end do not count as its end. -/
def areOrdered (ds : List Direction) : Bool :=
  match ds with
  | [] => true
  | first :: _ =>
    let last := (ds.reverse.dropWhile (· == .mark)).headD first
    if first == .left then
      ds.all fitsForward && (last == .left || last == .digit)
    else if first == .right || first == .arabic then
      ds.all fitsBackward && (isBackward last || last == .digit) &&
        -- digits of one kind only
        !(ds.contains .digit && ds.contains .arabicDigit)
    else false

/-- Are the directions in the label ordered? -/
def isOrdered (l : Label) : Bool := areOrdered (l.text.map direction)

end Label

end CloudClient
