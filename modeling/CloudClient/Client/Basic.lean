import CloudClient.Json.Value
import CloudClient.Metrics
import CloudClient.Request
import CloudClient.Retry
import CloudClient.Url.Parser

/-!
# Clients

A `Client` is made once, from `ClientOptions`, and then used for any number of requests. It checks
the options when it is made, so that `Client.request` can only fail because of the path.
-/

namespace CloudClient

/-! ## Options -/

/-- The endpoint of the public API. -/
def defaultEndpoint : String := "https://api.hetzner.cloud/v1"

/-- The user agent of a client that is not told otherwise. -/
def defaultUserAgent : String := "hcloud-rust/0.1.0"

/-- The HTTP client that carries the requests. -/
inductive Carrier where
  /-- one that the caller has made; it has no timeout -/
  | given
  /-- one that is made for this client, with or without a timeout -/
  | ownTimeout (timeout : Option Duration)
  /-- one that cannot be made, for this reason -/
  | unavailable (reason : String)
  deriving DecidableEq

/-- What a client can be told. -/
structure ClientOptions where
  /-- the URL in front of all paths -/
  endpoint : String
  /-- the token; with an empty one requests are not authorized -/
  token : String
  /-- the user agent, if it is not the usual one -/
  userAgent : Option String
  /-- the name and the version of the application -/
  application : Option (String × String)
  /-- what carries the requests -/
  carrier : Carrier
  /-- how requests are retried -/
  retry : RetryPolicy
  /-- the pauses between polls -/
  pollBackoff : Backoff
  /-- are requests and answers written down? -/
  isTranscribed : Bool
  /-- are round trips counted? -/
  isInstrumented : Bool

namespace ClientOptions

/-- What a client does that is not told anything. -/
def default : ClientOptions where
  endpoint := defaultEndpoint
  token := ""
  userAgent := none
  application := none
  carrier := .ownTimeout none
  retry := .default
  pollBackoff := .forPolls
  isTranscribed := false
  isInstrumented := false

/-- An endpoint without slashes at its end. -/
def trimEndpoint (s : String) : String :=
  String.ofList (s.toList.reverse.dropWhile (· == '/')).reverse

/-- The options with an endpoint; slashes at its end do not count. -/
def withEndpoint (o : ClientOptions) (endpoint : String) : ClientOptions :=
  { o with endpoint := trimEndpoint endpoint }

/-- The user agent with the application in front. -/
def userAgentText (o : ClientOptions) : String :=
  let base := o.userAgent.getD defaultUserAgent
  match o.application with
  | none => base
  | some (name, "") => name ++ " " ++ base
  | some (name, version) => name ++ "/" ++ version ++ " " ++ base

end ClientOptions

/-! ## Making a client -/

/-- A client. -/
structure Client where
  /-- the URL in front of all paths -/
  endpoint : String
  /-- the credentials, if there are any -/
  authorization : Option Http.HeaderValue
  /-- the user agent -/
  userAgent : Http.HeaderValue
  /-- how many milliseconds a round trip may take, if there is a limit -/
  timeout : Option Nat
  /-- how requests are retried -/
  retry : RetryPolicy
  /-- the pauses between polls -/
  pollBackoff : Backoff
  /-- are requests and answers written down? -/
  isTranscribed : Bool
  /-- are round trips counted? -/
  isInstrumented : Bool

namespace ClientOptions

/-- The endpoint, if it is a URL. -/
def checkedEndpoint (o : ClientOptions) : Except Error String :=
  match Url.parse o.endpoint with
  | .ok _ => .ok o.endpoint
  | .error e => .error (.invalidUrl e)

/-- The credentials, if the token can be sent. -/
def authorization (o : ClientOptions) : Except Error (Option Http.HeaderValue) :=
  if o.token.isEmpty then .ok none
  else
    match Http.HeaderValue.ofText? ("Bearer " ++ o.token) with
    | some v => .ok (some v)
    | none => .error (.configuration "Invalid token")

/-- The user agent, if it can be sent. -/
def checkedUserAgent (o : ClientOptions) : Except Error Http.HeaderValue :=
  match Http.HeaderValue.ofText? o.userAgentText with
  | some v => .ok v
  | none => .error (.configuration "Invalid user agent: failed to parse header value")

/-- The timeout of the HTTP client, if there is an HTTP client. -/
def timeout (o : ClientOptions) : Except Error (Option Nat) :=
  match o.carrier with
  | .given => .ok none
  | .ownTimeout timeout => .ok (timeout.map (·.millis))
  | .unavailable reason => .error (.configuration ("Failed to build HTTP client: " ++ reason))

/-- The client with these options, before it is instrumented. -/
def checked (o : ClientOptions) : Except Error Client := do
  let endpoint ← o.checkedEndpoint
  let authorization ← o.authorization
  let userAgent ← o.checkedUserAgent
  let timeout ← o.timeout
  return {
    endpoint, authorization, userAgent, timeout
    retry := o.retry
    pollBackoff := o.pollBackoff
    isTranscribed := o.isTranscribed
    isInstrumented := o.isInstrumented }

end ClientOptions

namespace Client

/-- Makes a client. If it is instrumented, the shared collectors are registered. -/
def build (o : ClientOptions) : Task Registry Client := do
  let client ← Task.ofExcept o.checked
  if client.isInstrumented then Registry.registerShared
  return client

/-! ## Requests -/

/-- The media type of JSON. -/
def jsonType : Http.HeaderValue := textBytes "application/json"

/-- The header fields of a request. -/
def headers (c : Client) (hasBody : Bool) : Http.Headers :=
  .ofList
    ((c.authorization.map fun v => ("authorization", v)).toList ++
      [("user-agent", c.userAgent), ("accept", jsonType)] ++
      (if hasBody then [("content-type", jsonType)] else []))

/-- A request for a path under the endpoint. -/
def request (c : Client) (lifetime : Lifetime) (method path : String) (body : Option Bytes) :
    Except Error Request :=
  match Url.parse (c.endpoint ++ path) with
  | .error e => .error (.invalidUrl e)
  | .ok url =>
    .ok { Request.bare lifetime method url with headers := c.headers body.isSome, body }

/-- A request with a JSON body, or with one that cannot be written, for the reason that is given. -/
def jsonRequest (c : Client) (lifetime : Lifetime) (method path : String)
    (body : Except String Json.Value) : Except Error Request :=
  match body with
  | .error reason => .error (.unwritable reason)
  | .ok v => c.request lifetime method path (some v.bytes)

end Client

end CloudClient
