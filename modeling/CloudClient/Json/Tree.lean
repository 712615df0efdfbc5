import CloudClient.Json.Token

/-!
# The shape of a JSON text

A `Tree` is a JSON text with the blanks dropped: numerals and strings stand in it as they are
written, objects keep their members in order and repeated names are kept too. A text that has a
tree is a syntactically valid one, and nothing more is asked of the parts of it that nobody reads.

`Tree.ofTokens?` reads a tree with a stack of the containers that are still open, so that the depth
of a text costs no recursion. `Tree.tokens` writes one.
-/

namespace CloudClient.Json

/-- A JSON text without its blanks. -/
inductive Tree where
  /-- the word null -/
  | null
  /-- the words true and false -/
  | bool (b : Bool)
  /-- a numeral as it is written -/
  | number (numeral : List Char)
  /-- a string as it is written between its quotes -/
  | string (quoted : Bytes)
  /-- an array and its elements -/
  | array (items : List Tree)
  /-- an object and its members -/
  | object (members : List (Bytes × Tree))

namespace Tree

/-! ## Reading -/

/-- A container that is still open, with what it holds so far in reverse. -/
inductive Frame where
  /-- an array -/
  | items (before : List Tree)
  /-- an object, and the name of the member whose value comes next -/
  | members (before : List (Bytes × Tree)) (name : Bytes)

mutual

/-- Reads a value inside the open containers. -/
def value (stack : List Frame) : List Token → Option Tree
  | .null :: s => closed stack .null s
  | .bool b :: s => closed stack (.bool b) s
  | .number n :: s => closed stack (.number n) s
  | .string q :: s => closed stack (.string q) s
  | .beginArray :: .endArray :: s => closed stack (.array []) s
  | .beginArray :: s => value (.items [] :: stack) s
  | .beginObject :: .endObject :: s => closed stack (.object []) s
  | .beginObject :: .string name :: .colon :: s => value (.members [] name :: stack) s
  | _ => none

/-- Goes on after a whole value: it is the text's own, or stands in the innermost open
container. -/
def closed (stack : List Frame) (t : Tree) : List Token → Option Tree
  | [] => if stack.isEmpty then some t else none
  | .comma :: .string name :: .colon :: s =>
    match stack with
    | .members before last :: stack => value (.members ((last, t) :: before) name :: stack) s
    | _ => none
  | .comma :: s =>
    match stack with
    | .items before :: stack => value (.items (t :: before) :: stack) s
    | _ => none
  | .endArray :: s =>
    match stack with
    | .items before :: stack => closed stack (.array (t :: before).reverse) s
    | _ => none
  | .endObject :: s =>
    match stack with
    | .members before last :: stack => closed stack (.object ((last, t) :: before).reverse) s
    | _ => none
  | _ => none

end

/-- The tree of a list of tokens. -/
def ofTokens? (s : List Token) : Option Tree := value [] s

/-- The tree of a JSON text; nothing if the text is not valid. -/
def parse? (s : Bytes) : Option Tree := do ofTokens? (← Token.lex s)

/-! ## Writing -/

mutual

/-- The tokens of a tree. -/
def tokens : Tree → List Token
  | .null => [.null]
  | .bool b => [.bool b]
  | .number n => [.number n]
  | .string q => [.string q]
  | .array items => .beginArray :: itemTokens items ++ [.endArray]
  | .object members => .beginObject :: memberTokens members ++ [.endObject]

/-- The tokens of elements, with the separators between them. -/
def itemTokens : List Tree → List Token
  | [] => []
  | [t] => t.tokens
  | t :: u :: rest => t.tokens ++ .comma :: itemTokens (u :: rest)

/-- The tokens of members, with the separators between them. -/
def memberTokens : List (Bytes × Tree) → List Token
  | [] => []
  | [(name, t)] => .string name :: .colon :: t.tokens
  | (name, t) :: m :: rest =>
    .string name :: .colon :: t.tokens ++ .comma :: memberTokens (m :: rest)

end

/-- The bytes of a tree, without blanks. -/
def render (t : Tree) : Bytes := t.tokens.flatMap Token.render

end Tree

end CloudClient.Json
