import CloudClient.Text.Parts
import CloudClient.Text.Utf8
import CloudClient.Url.Label

/-!
# Domain names

A domain name is a list of labels with points between them. `Domain.ofBytes?` brings the bytes of a
host into the form in which they are looked up: each character is replaced by what it stands for,
and each label is written in ASCII.
-/

namespace CloudClient.Domain

/-- The characters of a name in the form in which names are compared; nothing if one is not
allowed. -/
def mapped? (s : List Char) : Option (List Char) := do
  let targets ← s.mapM Unicode.mapping?
  return if Label.isAscii s then targets.flatten else Unicode.composedForm targets.flatten

/-- Are the labels ordered, if some text in them runs from the right to the left? -/
def areOrdered (labels : List Label) : Bool :=
  !labels.any Label.hasBackward || labels.all Label.isOrdered

/-- The labels of a name. -/
def labels? (s : List Char) : Option (List Label) := do
  let labels ← (partsAt '.' (← mapped? s)).mapM Label.ofText?
  if areOrdered labels then some labels else none

/-- The domain name that bytes stand for, in ASCII; nothing if they stand for none. -/
def ofBytes? (s : Bytes) : Option (List Char) :=
  (labels? (Utf8.decodeLossy s)).map fun labels => joinWith '.' (labels.map Label.written)

end CloudClient.Domain
