import CloudClient.Http.Header
import CloudClient.Lifetime
import CloudClient.Operation
import CloudClient.Url.Basic

/-!
# Requests

A `Request` holds all that is sent, and next to it the lifetime it runs in and the label under which
it is counted. A request can be sent any number of times.
-/

namespace CloudClient

/-- A request. -/
structure Request where
  /-- the method -/
  method : String
  /-- the URL -/
  url : Url
  /-- the header fields -/
  headers : Http.Headers
  /-- the body, if there is one -/
  body : Option Bytes
  /-- the label of the operation -/
  operation : String
  /-- the lifetime that the request runs in -/
  lifetime : Lifetime
  deriving DecidableEq

namespace Request

/-- A request without header fields and body. -/
def bare (lifetime : Lifetime) (method : String) (url : Url) : Request where
  method := method
  url := url
  headers := .empty
  body := none
  operation := Operation.label url.pathText
  lifetime := lifetime

/-- The request in another lifetime. -/
def withLifetime (r : Request) (lifetime : Lifetime) : Request := { r with lifetime }

/-- The request with another label. -/
def withOperation (r : Request) (operation : String) : Request := { r with operation }

/-- The request with more parameters in its query. -/
def withParameters (r : Request) (pairs : List (String × String)) : Request :=
  { r with url := r.url.withParameters pairs }

/-- The request with a value for a header field in place of any it has, if the name and the value
can be sent. -/
def withHeader (r : Request) (name value : String) : Except Error Request :=
  match Http.HeaderName.ofText? name with
  | none => .error (.configuration "Invalid header name: invalid HTTP header name")
  | some n =>
    match Http.HeaderValue.ofText? value with
    | none => .error (.configuration "Invalid header value: failed to parse header value")
    | some v => .ok { r with headers := r.headers.insert n v }

/-- A request without parameters to add stays as it is. -/
@[simp] theorem withParameters_nil (r : Request) : r.withParameters [] = r := rfl

end Request

end CloudClient
