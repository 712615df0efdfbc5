import CloudClient.Json.Quoted
import CloudClient.Json.Tree

/-!
# Records in JSON texts

A record with named fields is written as an object, or as an array of its fields in their declared
order. `Tree.fields?` finds the fields of either form: an object may hold other members, but no
field twice; an array may stop early, but not go on after the last field.

A field is then read by one of the readers below, which say what a missing one means. What no field
asks for is never looked at.
-/

namespace CloudClient.Json

/-- The fields of a record: the tree of each, or none where it is missing. -/
abbrev Fields := List (Option Tree)

namespace Fields

/-- Puts a value into the field with this name; nothing if it is there already. A name that no
field has changes nothing. -/
def put? (name : String) (t : Tree) : List String → Fields → Option Fields
  | n :: names, field :: fields =>
    if n = name then if field.isSome then none else some (some t :: fields)
    else (put? name t names fields).map (field :: ·)
  | _, fields => some fields

end Fields

namespace Tree

/-- The fields with these names. -/
def fields? (names : List String) : Tree → Option Fields
  | .object members =>
    members.foldlM
      (fun fields m => do Fields.put? (← Quoted.decode? m.1) m.2 names fields)
      (names.map fun _ => none)
  | .array items =>
    if items.length ≤ names.length then
      some (items.map some ++ List.replicate (names.length - items.length) none)
    else none
  | _ => none

/-! ## Readers of one field -/

/-- A field that has to be there. -/
def required {α : Type} (read : Tree → Option α) : Option Tree → Option α
  | some t => read t
  | none => none

/-- A field with a value to take when it is missing. -/
def withDefault {α : Type} (default : α) (read : Tree → Option α) : Option Tree → Option α
  | some t => read t
  | none => some default

/-- A field that may be missing or null. -/
def optional {α : Type} (read : Tree → Option α) : Option Tree → Option (Option α)
  | some .null => some none
  | some t => (read t).map some
  | none => some none

/-- A string. -/
def string? : Tree → Option String
  | .string q => Quoted.decode? q
  | _ => none

/-- A whole number from `low` to `high`. -/
def intIn? (low high : Int) : Tree → Option Int
  | .number n => do ((← Numeral.parse? n).int?).filter fun i => low ≤ i && i ≤ high
  | _ => none

/-- A whole number that fits into 64 bits with a sign. -/
def int64? : Tree → Option Int :=
  intIn? (-0x8000_0000_0000_0000) 0x7FFF_FFFF_FFFF_FFFF

/-- A whole number that fits into 32 bits without a sign. -/
def nat32? (t : Tree) : Option Nat := (intIn? 0 0xFFFF_FFFF t).map Int.toNat

/-- An array of values that are read alike. -/
def list? {α : Type} (read : Tree → Option α) : Tree → Option (List α)
  | .array items => items.mapM read
  | _ => none

end Tree

end CloudClient.Json
