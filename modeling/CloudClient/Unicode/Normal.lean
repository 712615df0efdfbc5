import CloudClient.Unicode.Composition

/-!
# The composed form

A text can be written with composed characters or with their parts. `composedForm` brings it into
the one form that is composed as far as possible: it takes every character apart, puts the marks in
order, and composes again.
-/

namespace CloudClient.Unicode

/-! ## Syllables

The syllables of Korean are composed by counting: of a leading consonant, a vowel, and perhaps a
trailing consonant.
-/

namespace Syllable

/-- The first syllable. -/
def base : Nat := 0xAC00

/-- The first leading consonant. -/
def leadBase : Nat := 0x1100

/-- The first vowel. -/
def vowelBase : Nat := 0x1161

/-- The trailing consonant that stands for none. -/
def trailBase : Nat := 0x11A7

/-- How many leading consonants there are. -/
def leads : Nat := 19

/-- How many vowels there are. -/
def vowels : Nat := 21

/-- How many trailing consonants there are, with the one that stands for none. -/
def trails : Nat := 28

/-- The letters of a syllable. -/
def letters? (c : Char) : Option (List Char) :=
  if base ≤ c.toNat ∧ c.toNat < base + leads * vowels * trails then
    let index := c.toNat - base
    let trail := index % trails
    some ([Char.ofNat (leadBase + index / (vowels * trails)),
      Char.ofNat (vowelBase + index % (vowels * trails) / trails)] ++
      if trail = 0 then [] else [Char.ofNat (trailBase + trail)])
  else none

/-- The syllable of a leading consonant and a vowel, or of a syllable without trailing consonant and
one. -/
def compose? (a b : Char) : Option Char :=
  let lead := a.toNat - leadBase
  let vowel := b.toNat - vowelBase
  let index := a.toNat - base
  let trail := b.toNat - trailBase
  if leadBase ≤ a.toNat ∧ lead < leads ∧ vowelBase ≤ b.toNat ∧ vowel < vowels then
    some (Char.ofNat (base + (lead * vowels + vowel) * trails))
  else if base ≤ a.toNat ∧ index < leads * vowels * trails ∧ index % trails = 0 ∧
      trailBase < b.toNat ∧ trail < trails then
    some (Char.ofNat (a.toNat + trail))
  else none

end Syllable

/-! ## Taking apart -/

/-- The most parts that a part is composed of in turn. -/
def partDepth : Nat := 4

/-- The characters that a character is composed of in the end, in at most so many steps. -/
def decomposed : Nat → Char → List Char
  | 0, c => [c]
  | depth + 1, c =>
    match Syllable.letters? c with
    | some letters => letters
    | none =>
      match parts? c with
      | some (a, b) => decomposed depth a ++ [b]
      | none => [c]

/-! ## Order of marks -/

/-- Puts a mark behind all that are of its class or a lower one, but in front of no other
character. The text is in reverse. -/
def insertMark (c : Char) (k : Nat) : List Char → List Char
  | [] => [c]
  | d :: rest => if k < markClass d then d :: insertMark c k rest else c :: d :: rest

/-- The text with the marks in order. -/
def ordered (s : List Char) : List Char :=
  (s.foldl (fun done c => if markClass c = 0 then c :: done else insertMark c (markClass c) done)
    []).reverse

/-! ## Composing -/

/-- The character that two are composed into. -/
def composePair? (a b : Char) : Option Char := (Syllable.compose? a b).orElse fun _ => composition? a b

/-- What follows in the composed form after the starter and the marks behind it, in reverse, that
could not be composed with it. -/
def compose (starter : Char) (marks : List Char) : List Char → List Char
  | [] => starter :: marks.reverse
  | c :: rest =>
    let k := markClass c
    -- marks of its class, or of a higher one, keep a mark away from the starter
    let isFree := match marks with
      | [] => true
      | m :: _ => markClass m ≠ 0 && markClass m < k
    match if isFree then composePair? starter c else none with
    | some d => compose d marks rest
    | none =>
      if k = 0 then starter :: marks.reverse ++ compose c [] rest
      else compose starter (c :: marks) rest

/-- The composed form of a text in which the marks are in order. -/
def composeFrom : List Char → List Char
  | [] => []
  | c :: rest => if markClass c = 0 then compose c [] rest else c :: composeFrom rest

/-- The composed form of a text. -/
def composedForm (s : List Char) : List Char :=
  composeFrom (ordered (s.flatMap (decomposed partDepth)))

end CloudClient.Unicode
