import CloudClient.Error.Api
import CloudClient.Json.Fault
import CloudClient.Url.Error

/-!
# Errors

`Error` lists the ways in which an operation of the client fails, each with what is known about it;
`Error.text` is its wording. Callers can pass errors of their own through the client, so an error
may hold an error of any kind; `AnyError` is the type of those.

* `Error.isTransient` says which failures the client retries on its own.
* `AnyError.hasCode` finds an API error anywhere in a chain of causes.
-/

namespace CloudClient

/-! ## Causes -/

/-- The failure of an action. -/
structure ActionError where
  /-- the code -/
  code : ErrorCode
  /-- the message -/
  message : String
  /-- the id of the action, if it is known -/
  actionId : Option Int
  deriving DecidableEq

/-- The message with the code, and with the id of the action if it is known. -/
def ActionError.text (e : ActionError) : String :=
  match e.actionId with
  | none => e.message ++ " (" ++ e.code.text ++ ")"
  | some id => e.message ++ " (" ++ e.code.text ++ ", " ++ Decimal.intText id ++ ")"

/-- The failure of a round trip. -/
structure NetworkError where
  /-- what went wrong -/
  text : String
  /-- did the answer take too long? -/
  isTimeout : Bool
  deriving DecidableEq

/-- The way in which a context ended. -/
inductive Ending where
  /-- it was canceled -/
  | canceled
  /-- its deadline passed -/
  | deadlineExceeded
  deriving DecidableEq

mutual

/-- The failure of an operation. -/
inductive Error where
  /-- the round trip failed -/
  | network (cause : NetworkError)
  /-- the answer has an error status and says nothing usable -/
  | status (response : Response)
  /-- the API reported an error -/
  | api (cause : ApiError)
  /-- an action failed -/
  | action (cause : ActionError)
  /-- actions that were waited for are gone -/
  | actionsNotFound (ids : List Int)
  /-- the body of the answer does not have the shape that was asked for; perhaps it is no JSON -/
  | undecodable (status : Http.Status) (body : String) (fault : Option Json.Fault)
  /-- the client or a request is configured wrongly -/
  | configuration (reason : String)
  /-- the body of a request cannot be written -/
  | unwritable (reason : String)
  /-- the endpoint and the path form no URL -/
  | invalidUrl (cause : UrlError)
  /-- the context ended first -/
  | ended (ending : Ending)
  /-- an error of the caller -/
  | custom (cause : AnyError)

/-- An error of any kind. -/
inductive AnyError where
  /-- an error of the client -/
  | client (error : Error)
  /-- an error of the API on its own -/
  | api (cause : ApiError)
  /-- a foreign error without a cause -/
  | foreign (text : String)
  /-- a foreign error with a cause -/
  | wrapped (text : String) (cause : AnyError)

end

/-! ## Wording -/

/-- The ids in brackets. -/
def idsText (ids : List Int) : String :=
  "[" ++ String.intercalate ", " (ids.map Decimal.intText) ++ "]"

/-- The wording of an ending. -/
def Ending.text : Ending → String
  | canceled => "context canceled"
  | deadlineExceeded => "context deadline exceeded"

/-- The wording of an error about a body. -/
def undecodableText (status : Http.Status) (fault : Option Json.Fault) : String :=
  "Failed to deserialize response (status " ++ status.text ++ "): " ++
    (fault.map Json.Fault.text).getD ""

mutual

/-- The wording of an error. An error that only hands another one on has the wording of that. -/
def Error.text : Error → String
  | .network cause => "Network error: " ++ cause.text
  | .status response =>
    "hcloud: server responded with status code " ++ Decimal.natText response.status.code
  | .api cause => cause.text
  | .action cause => cause.text
  | .actionsNotFound ids => "actions not found: " ++ idsText ids
  | .undecodable status _ fault => undecodableText status fault
  | .configuration reason => "Configuration error: " ++ reason
  | .unwritable reason => "Failed to serialize request: " ++ reason
  | .invalidUrl cause => "Invalid URL: " ++ cause.text
  | .ended ending => ending.text
  | .custom cause => cause.text

/-- The wording of an error of any kind. -/
def AnyError.text : AnyError → String
  | .client error => error.text
  | .api cause => cause.text
  | .foreign text => text
  | .wrapped text _ => text

end

/-! ## Classes of errors -/

namespace Error

/-- Is the request worth another attempt, with nothing else known than this error? -/
def isTransient : Error → Bool
  | network cause => cause.isTimeout
  | status response => response.status.isGatewayFailure
  | api cause => cause.code.isTransient
  | _ => false

/-- Did the context end the operation? -/
def isEnding : Error → Bool
  | ended _ => true
  | _ => false

/-- The answer that caused the error. -/
def response? : Error → Option Response
  | status response => some response
  | api cause => cause.response
  | _ => none

/-- The status of the answer that caused the error. -/
def status? : Error → Option Http.Status
  | undecodable code _ _ => some code
  | e => e.response?.map (·.status)

end Error

/-! ## Chains of causes -/

namespace AnyError

/-- The error itself, with the layers that only hand an error on taken off. -/
def bare : AnyError → AnyError
  | .client (.custom cause) => cause.bare
  | e => e

/-- The API error that an error is. -/
def api? (e : AnyError) : Option ApiError :=
  match e.bare with
  | .client (.api cause) => some cause
  | .api cause => some cause
  | _ => none

/-- The cause that an error names. A layer that only hands an error on names the cause of that
error. -/
def cause? (e : AnyError) : Option AnyError :=
  match e.bare with
  | .wrapped _ cause => some cause
  | _ => none

theorem sizeOf_bare_le (e : AnyError) : sizeOf e.bare ≤ sizeOf e := by
  fun_induction bare e with
  | case1 cause ih => simp only [client.sizeOf_spec, Error.custom.sizeOf_spec]; omega
  | case2 => exact Nat.le_refl _

/-- Each cause is a part of the error that names it. -/
theorem sizeOf_cause?_lt {e cause : AnyError} (h : e.cause? = some cause) :
    sizeOf cause < sizeOf e := by
  refine Nat.lt_of_lt_of_le ?_ (sizeOf_bare_le e)
  rw [cause?] at h
  split at h
  · rename_i text inner hb
    simp only [Option.some.injEq] at h
    subst h
    rw [hb]
    simp only [wrapped.sizeOf_spec]
    omega
  · contradiction

/-- Is the error, or one of its causes, an API error with this code? -/
def hasCode (code : ErrorCode) (e : AnyError) : Bool :=
  (e.api?.map (·.code == code)).getD false ||
  match h : e.cause? with
  | some cause =>
    have : sizeOf cause < sizeOf e := sizeOf_cause?_lt h
    hasCode code cause
  | none => false
termination_by sizeOf e

end AnyError

/-- Is the error, or one of its causes, an API error with this code? -/
def Error.hasCode (code : ErrorCode) (e : Error) : Bool := AnyError.hasCode code (.client e)

end CloudClient
