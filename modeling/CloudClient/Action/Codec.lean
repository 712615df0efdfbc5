import CloudClient.Action.Basic

/-!
# Actions in JSON

`Action.ofTree?` reads a snapshot: the id and the status have to be there, every other field may be
missing, and the finish and the failure may be null. `Action.value` writes one. Answers hold one
action under `action`, or a list of them under `actions`.
-/

namespace CloudClient

open Json

/-! ## Reading -/

/-- Reads a status: its name, or an object that holds null under this name. -/
def ActionStatus.ofTree? : Tree → Option ActionStatus
  | .string q => do ofText? (← Quoted.decode? q)
  | .object [(q, .null)] => do ofText? (← Quoted.decode? q)
  | _ => none

/-- Reads a moment. -/
def Time.Timestamp.ofTree? (t : Tree) : Option Time.Timestamp := do
  Time.Timestamp.parse? (← t.string?)

/-- Reads a code. -/
def ErrorCode.ofTree? (t : Tree) : Option ErrorCode := t.string?.map ErrorCode.ofText

/-- Reads why an action failed. -/
def ActionFailure.ofTree? (t : Tree) : Option ActionFailure := do
  match ← t.fields? ["code", "message"] with
  | [code, message] =>
    return {
      code := ← Tree.required ErrorCode.ofTree? code
      message := ← Tree.required Tree.string? message }
  | _ => none

/-- Reads a resource. -/
def ActionResource.ofTree? (t : Tree) : Option ActionResource := do
  match ← t.fields? ["id", "type"] with
  | [id, kind] =>
    return {
      id := ← Tree.required Tree.int64? id
      kind := ← Tree.required Tree.string? kind }
  | _ => none

namespace Action

/-- The fields of an action. -/
def fieldNames : List String :=
  ["id", "status", "command", "progress", "started", "finished", "error", "resources"]

/-- Reads a percentage. -/
def progress? (t : Tree) : Option UInt32 := t.nat32?.map UInt32.ofNat

/-- Reads an action. -/
def ofTree? (t : Tree) : Option Action := do
  match ← t.fields? fieldNames with
  | [id, status, command, progress, started, finished, failure, resources] =>
    return {
      id := ← Tree.required Tree.int64? id
      status := ← Tree.required ActionStatus.ofTree? status
      command := ← Tree.withDefault "" Tree.string? command
      progress := ← Tree.withDefault 0 progress? progress
      started := ← Tree.withDefault .epoch Time.Timestamp.ofTree? started
      finished := ← Tree.optional Time.Timestamp.ofTree? finished
      failure := ← Tree.optional ActionFailure.ofTree? failure
      resources := ← Tree.withDefault [] (Tree.list? ActionResource.ofTree?) resources }
  | _ => none

/-- Reads the answer that holds one action. -/
def ofEnvelope? (t : Tree) : Option Action := do
  match ← t.fields? ["action"] with
  | [action] => Tree.required ofTree? action
  | _ => none

/-- Reads the answer that holds a list of actions. -/
def listOfEnvelope? (t : Tree) : Option (List Action) := do
  match ← t.fields? ["actions"] with
  | [actions] => Tree.required (Tree.list? ofTree?) actions
  | _ => none

end Action

/-! ## Writing -/

/-- Writes why an action failed. -/
def ActionFailure.value (f : ActionFailure) : Value :=
  .ofMembers [("code", .string f.code.text), ("message", .string f.message)]

/-- Writes a resource. -/
def ActionResource.value (r : ActionResource) : Value :=
  .ofMembers [("id", .number (.whole r.id)), ("type", .string r.kind)]

/-- Writes a value that may be missing as null. -/
def orNull {α : Type} (write : α → Value) : Option α → Value
  | some x => write x
  | none => .null

/-- Writes an action. -/
def Action.value (a : Action) : Value :=
  .ofMembers
    [("id", .number (.whole a.id)),
      ("status", .string a.status.text),
      ("command", .string a.command),
      ("progress", .number (.whole a.progress.toNat)),
      ("started", .string a.started.text),
      ("finished", orNull (fun t => .string t.text) a.finished),
      ("error", orNull ActionFailure.value a.failure),
      ("resources", .array (a.resources.map ActionResource.value))]

end CloudClient
