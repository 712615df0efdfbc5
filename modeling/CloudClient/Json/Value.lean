import CloudClient.Json.Quoted
import CloudClient.Json.Tree

/-!
# JSON values

A `Value` is what is kept of a JSON text when its shape is not known beforehand: numbers are read,
strings are decoded, and an object has each name once, in the order of the names.

* `Tree.value?` reads a value; of members with one name the last one counts. Containers may stand
  in each other only so deep.
* `Value.tree` writes a value, and `Value.text` and `Value.bytes` its compact text.
-/

namespace CloudClient.Json

/-- A JSON value. -/
inductive Value where
  /-- the value null -/
  | null
  /-- a truth value -/
  | bool (b : Bool)
  /-- a number -/
  | number (n : Number)
  /-- a string -/
  | string (s : String)
  /-- an array and its elements -/
  | array (items : List Value)
  /-- an object and its members, in the order of their names -/
  | object (members : List (String × Value))

namespace Value

/-- Sets a member among members in the order of their names. -/
def setMember (name : String) (v : Value) : List (String × Value) → List (String × Value)
  | [] => [(name, v)]
  | (n, w) :: rest =>
    if name < n then (name, v) :: (n, w) :: rest
    else if name = n then (name, v) :: rest
    else (n, w) :: setMember name v rest

/-- The object with these members; the last one of a name counts. -/
def ofMembers (members : List (String × Value)) : Value :=
  .object (members.foldl (fun ms m => setMember m.1 m.2 ms) [])

/-- The value of a member, if the value is an object that has it. -/
def get? (name : String) : Value → Option Value
  | .object members => (members.find? (·.1 == name)).map (·.2)
  | _ => none

/-! ## Reading -/

/-- How many containers may be open at once in a text that is kept. -/
def depthLimit : Nat := 127

end Value

/-- Reads a value in which at most `room` containers are open at once. -/
def Tree.value? : Nat → Tree → Option Value
  | _, .null => some .null
  | _, .bool b => some (.bool b)
  | _, .number n => do return .number (← (← Numeral.parse? n).number?)
  | _, .string q => (Quoted.decode? q).map .string
  | 0, .array _ => none
  | 0, .object _ => none
  | room + 1, .array items => do
    let items ← items.mapM (Tree.value? room)
    return .array items
  | room + 1, .object members => do
    let members ← members.mapM fun m => do
      return (← Quoted.decode? m.1, ← Tree.value? room m.2)
    return Value.ofMembers members

/-- The value of a whole JSON text. -/
def Value.parse? (s : Bytes) : Option Value := do (← Tree.parse? s).value? Value.depthLimit

/-! ## Writing -/

namespace Value

mutual

/-- The tree of a value. -/
def tree : Value → Tree
  | .null => .null
  | .bool b => .bool b
  | .number n => .number n.text
  | .string s => .string (Quoted.encode s)
  | .array items => .array (itemTrees items)
  | .object members => .object (memberTrees members)

/-- The trees of elements. -/
def itemTrees : List Value → List Tree
  | [] => []
  | v :: rest => v.tree :: itemTrees rest

/-- The trees of members. -/
def memberTrees : List (String × Value) → List (Bytes × Tree)
  | [] => []
  | (name, v) :: rest => (Quoted.encode name, v.tree) :: memberTrees rest

end

/-- The compact text of a value, as bytes. -/
def bytes (v : Value) : Bytes := v.tree.render

/-- The compact text of a value. -/
def text (v : Value) : String := lossyText v.bytes

end Value

end CloudClient.Json
