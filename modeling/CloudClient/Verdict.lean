import CloudClient.Error.Basic

/-!
# Verdicts

What an answer means for the operation that asked for it. `Response.verdict` turns an answer with an
error status into an error: the one that the API reports in an envelope, or else just the status.
`Response.paginated` reads where the answer stands in its list, and refuses a body that says it is
JSON but is not. `Response.decoded` reads the value that was asked for.
-/

namespace CloudClient.Response

/-- The answer with the request window that its header fields report. -/
def limited (r : Response) (now : Nat) : Response :=
  { r with metadata := { r.metadata with rateLimit := .ofHeaders now r.headers } }

/-- What the API reports in the body, if it says anything about an error. -/
def errorBody? (r : Response) : Option ErrorBody :=
  if r.hasJsonBody then (r.decode? ErrorBody.ofEnvelope?).filter (!·.isBlank) else none

/-- The error of an answer with an error status. -/
def error (r : Response) : Error :=
  match r.errorBody? with
  | some b => .api ((ApiError.ofBody b).withResponse r)
  | none => .status r

/-- The answer, or its error if it has an error status. -/
def verdict (r : Response) : Except Error Response :=
  if r.status.isError then .error r.error else .ok r

/-- The error of an answer whose body is not what was asked for. -/
def undecodable (r : Response) : Error := .undecodable r.status r.text (Json.Fault.find? r.body)

/-- The value that the body holds. -/
def decoded {α : Type} (read : Json.Tree → Option α) (r : Response) : Except Error α :=
  match r.decode? read with
  | some a => .ok a
  | none => .error r.undecodable

/-- The answer with its place in a list. -/
def paginated (r : Response) : Except Error Response :=
  if r.hasJsonBody then do
    let pagination ← r.decoded Pagination.ofEnvelope?
    return { r with metadata := { r.metadata with pagination } }
  else return r

end CloudClient.Response
