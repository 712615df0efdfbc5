import CloudClient.Number.Decimal
import CloudClient.Text.Parts

/-!
# Addresses as hosts

A host may be an IPv4 address, four numbers or fewer in one of three bases, or an IPv6 address of
eight pieces, of which one run of zeros may be left out.
-/

namespace CloudClient

/-! ## IPv4 -/

/-- An IPv4 address. -/
structure Ipv4 where
  /-- the address as a number of 32 bits -/
  bits : Nat
  deriving DecidableEq

namespace Ipv4

/-- The value of a digit in a base. -/
def digit? (base : Nat) (c : Char) : Option Nat :=
  let value :=
    if c.isDigit then c.toNat - '0'.toNat
    else if 'a' ≤ c ∧ c ≤ 'f' then c.toNat - 'a'.toNat + 10
    else if 'A' ≤ c ∧ c ≤ 'F' then c.toNat - 'A'.toNat + 10
    else base
  if value < base then some value else none

/-- The number that digits denote in a base. -/
def natIn? (base : Nat) (s : List Char) : Option Nat :=
  s.foldlM (fun n c => (digit? base c).map (n * base + ·)) 0

/-- A number: hexadecimal after `0x`, octal after another zero, and else decimal. -/
def number? : List Char → Option Nat
  | [] => none
  | '0' :: 'x' :: s | '0' :: 'X' :: s => natIn? 16 s
  | '0' :: c :: s => natIn? 8 (c :: s)
  | s => natIn? 10 s

/-- The last part that is not an empty one at the end. -/
def lastPart? (s : List Char) : Option (List Char) :=
  match (partsAt '.' s).reverse with
  | [] :: part :: _ => some part
  | [] :: [] => none
  | part :: _ => some part
  | [] => none

/-- Does the host end in a number, so that it has to be an address? -/
def endsInNumber (s : List Char) : Bool :=
  match lastPart? s with
  | none => false
  | some part => (!part.isEmpty && part.all Char.isDigit) || (number? part).isSome

/-- The address of numbers, of which the last one fills all places that are left. -/
def ofNumbers? (numbers : List Nat) : Option Ipv4 :=
  match numbers.reverse with
  | [] => none
  | last :: front =>
    let front := front.reverse
    if front.length < 4 ∧ front.all (· < 256) ∧ last < Nat.pow 256 (4 - front.length) then
      some ⟨front.foldr (fun n (rest, place) => (rest + n * Nat.pow 256 place, place + 1))
        (last, 4 - front.length) |>.1⟩
    else none

/-- Reads an address; a point at the end is dropped. -/
def parse? (s : List Char) : Option Ipv4 := do
  let parts := partsAt '.' s
  let parts := if 1 < parts.length ∧ parts.getLast? = some [] then parts.dropLast else parts
  ofNumbers? (← parts.mapM number?)

/-- The four numbers with points between them. -/
def text (a : Ipv4) : List Char :=
  joinWith '.'
    [Decimal.ofNat (a.bits / 0x100_0000), Decimal.ofNat (a.bits / 0x1_0000 % 256),
      Decimal.ofNat (a.bits / 256 % 256), Decimal.ofNat (a.bits % 256)]

end Ipv4

/-! ## IPv6 -/

/-- An IPv6 address. -/
structure Ipv6 where
  /-- the eight pieces of 16 bits -/
  pieces : List Nat
  deriving DecidableEq

namespace Ipv6

/-- A piece of one to four hexadecimal digits. -/
def piece? (s : List Char) : Option Nat :=
  if s.isEmpty ∨ 4 < s.length then none else Ipv4.natIn? 16 s

/-- A number of an embedded IPv4 address: decimal, below 256, without leading zeros. -/
def byte? (s : List Char) : Option Nat :=
  match s with
  | [] => none
  | '0' :: _ :: _ => none
  | _ => (Decimal.nat? s).filter (· < 256)

/-- The two pieces of an embedded IPv4 address. -/
def embedded? (s : List Char) : Option (List Nat) := do
  match ← (partsAt '.' s).mapM byte? with
  | [a, b, c, d] => return [a * 256 + b, c * 256 + d]
  | _ => none

/-- The pieces between colons; an embedded IPv4 address may come last. -/
def pieces? (s : List Char) : Option (List Nat) :=
  if s.isEmpty then some []
  else
    let parts := partsAt ':' s
    match parts.getLast? with
    | some last =>
      if last.contains '.' then do
        return (← parts.dropLast.mapM piece?) ++ (← embedded? last)
      else parts.mapM piece?
    | none => none

/-- The text before the first two colons in a row, and after them. -/
def splitAtGap : List Char → Option (List Char × List Char)
  | ':' :: ':' :: s => some ([], s)
  | c :: s => (splitAtGap s).map fun (front, back) => (c :: front, back)
  | [] => none

/-- Reads an address, without its brackets. A gap stands for at least one piece of zero. -/
def parse? (s : List Char) : Option Ipv6 :=
  match splitAtGap s with
  | none => do
    let pieces ← pieces? s
    if pieces.length = 8 then return ⟨pieces⟩ else none
  | some (front, back) => do
    let front ← if front.contains '.' then none else pieces? front
    let back ← pieces? back
    if front.length + back.length < 8 then
      return ⟨front ++ List.replicate (8 - front.length - back.length) 0 ++ back⟩
    else none

/-- The length of the run of zeros in front. -/
def zeroRun (pieces : List Nat) : Nat := (pieces.takeWhile (· == 0)).length

/-- The start and the length of the longest run of zeros, the first one of several; runs of one
piece do not count. -/
def longestRun (pieces : List Nat) : Option (Nat × Nat) :=
  (List.range pieces.length).foldl
    (fun best i =>
      let n := zeroRun (pieces.drop i)
      if n < 2 then best
      else
        match best with
        | some (_, m) => if m < n then some (i, n) else best
        | none => some (i, n))
    none

/-- Pieces with colons between them. -/
def piecesText (pieces : List Nat) : List Char :=
  joinWith ':' (pieces.map (Nat.toDigits 16))

/-- The text of an address, without its brackets. -/
def text (a : Ipv6) : List Char :=
  match longestRun a.pieces with
  | none => piecesText a.pieces
  | some (i, n) => piecesText (a.pieces.take i) ++ ':' :: ':' :: piecesText (a.pieces.drop (i + n))

end Ipv6

end CloudClient
