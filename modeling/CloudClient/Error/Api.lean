import CloudClient.Error.Code
import CloudClient.Json.Value
import CloudClient.Json.Record
import CloudClient.Response

/-!
# API errors

A failed request is answered with an envelope `{"error": {"code", "message", "details"}}`.

* `ErrorBody` is the inner record as it travels; `ErrorBody.ofEnvelope?` reads it from an envelope
  and `ErrorBody.envelope` writes it.
* `ApiError` is what the client makes of it: the code is resolved, and the details have a type for
  the two codes whose details have a known shape. `ApiError.ofBody` and `ApiError.body` convert.
-/

namespace CloudClient

open Json

/-! ## The envelope -/

/-- The inner record of an error envelope. -/
structure ErrorBody where
  /-- the code -/
  code : String
  /-- the message -/
  message : String
  /-- the details, if there are any -/
  details : Option Value

namespace ErrorBody

/-- How many containers may be open in the details, inside the two of the envelope. -/
def detailsRoom : Nat := Value.depthLimit - 2

/-- Reads the inner record. -/
def ofTree? (t : Tree) : Option ErrorBody := do
  match ← t.fields? ["code", "message", "details"] with
  | [code, message, details] =>
    return {
      code := ← Tree.withDefault "" Tree.string? code
      message := ← Tree.withDefault "" Tree.string? message
      details := ← Tree.optional (Tree.value? detailsRoom) details }
  | _ => none

/-- Reads an envelope. -/
def ofEnvelope? (t : Tree) : Option ErrorBody := do
  match ← t.fields? ["error"] with
  | [error] => Tree.required ofTree? error
  | _ => none

/-- Writes the inner record. -/
def value (b : ErrorBody) : Value :=
  .ofMembers
    ([("code", .string b.code), ("message", .string b.message)] ++
      (b.details.map fun d => ("details", d)).toList)

/-- Writes the envelope. -/
def envelope (b : ErrorBody) : Value := .object [("error", b.value)]

/-- Does the record say anything about the error? -/
def isBlank (b : ErrorBody) : Bool := b.code.isEmpty && b.message.isEmpty

end ErrorBody

/-! ## Details -/

/-- A field of a request that was refused, with the reasons. -/
structure InvalidField where
  /-- the name of the field -/
  name : String
  /-- the reasons -/
  messages : List String
  deriving DecidableEq

/-- What an API error says beyond its message. -/
inductive ErrorDetails where
  /-- the refused fields of an invalid input -/
  | invalidInput (fields : List InvalidField)
  /-- the announcement that an endpoint will go away -/
  | deprecatedEndpoint (announcement : String)
  /-- details of any other shape -/
  | other (raw : Value)

namespace ErrorDetails

/-- The fields of a record, written as an object or as an array of the fields in this order. -/
def fields? (names : List String) : Value → Option (List (Option Value))
  | .object members => some (names.map fun name => Value.get? name (.object members))
  | .array items =>
    if items.length ≤ names.length then
      some (items.map some ++ List.replicate (names.length - items.length) none)
    else none
  | _ => none

/-- A string. -/
def string? : Value → Option String
  | .string s => some s
  | _ => none

/-- An array of values that are read alike. -/
def list? {α : Type} (read : Value → Option α) : Value → Option (List α)
  | .array items => items.mapM read
  | _ => none

/-- Reads a refused field. -/
def invalidField? (v : Value) : Option InvalidField := do
  match ← fields? ["name", "messages"] v with
  | [some name, some messages] =>
    return { name := ← string? name, messages := ← list? string? messages }
  | _ => none

/-- Reads the details of an invalid input. -/
def invalidInput? (v : Value) : Option ErrorDetails := do
  match ← fields? ["fields"] v with
  | [some fields] => return .invalidInput (← list? invalidField? fields)
  | _ => none

/-- Reads the details of a deprecated endpoint. -/
def deprecatedEndpoint? (v : Value) : Option ErrorDetails := do
  match ← fields? ["announcement"] v with
  | [some announcement] => return .deprecatedEndpoint (← string? announcement)
  | _ => none

/-- The details of an error with this code; of another shape than the code's, they are kept as
they are. -/
def ofValue (code : ErrorCode) (raw : Value) : ErrorDetails :=
  match code with
  | .invalidInput => (invalidInput? raw).getD (.other raw)
  | .deprecatedApiEndpoint => (deprecatedEndpoint? raw).getD (.other raw)
  | _ => .other raw

/-- Writes a refused field. -/
def fieldValue (f : InvalidField) : Value :=
  .ofMembers [("name", .string f.name), ("messages", .array (f.messages.map .string))]

/-- Writes details. -/
def value : ErrorDetails → Value
  | invalidInput fields => .object [("fields", .array (fields.map fieldValue))]
  | deprecatedEndpoint announcement => .object [("announcement", .string announcement)]
  | other raw => raw

end ErrorDetails

/-! ## The error -/

/-- An error that the API reported. -/
structure ApiError where
  /-- the code -/
  code : ErrorCode
  /-- the message -/
  message : String
  /-- what the error says beyond its message -/
  details : Option ErrorDetails
  /-- the answer that reported it -/
  response : Option Response

namespace ApiError

/-- The error that a record reports. -/
def ofBody (b : ErrorBody) : ApiError :=
  let code := ErrorCode.ofText b.code
  ⟨code, b.message, b.details.map (ErrorDetails.ofValue code), none⟩

/-- The record that reports the error. -/
def body (e : ApiError) : ErrorBody :=
  ⟨e.code.text, e.message, e.details.map ErrorDetails.value⟩

/-- The error with the answer that reported it. -/
def withResponse (e : ApiError) (r : Response) : ApiError := { e with response := some r }

/-- The id under which the server knows the request. -/
def correlationId? (e : ApiError) : Option String := do
  (← e.response).header? "x-correlation-id"

/-- The message with the code, and with the id of the request if there is one. -/
def text (e : ApiError) : String :=
  match e.correlationId? with
  | none | some "" => e.message ++ " (" ++ e.code.text ++ ")"
  | some id => e.message ++ " (" ++ e.code.text ++ ", " ++ id ++ ")"

end ApiError

end CloudClient
