import CloudClient.Http.Header
import CloudClient.Text.Blank
import CloudClient.Time.HttpDate

/-!
# Rate limits

Every answer of the API reports the request window in header fields. `RateLimit.ofHeaders` reads
them; a field that is missing or malformed counts as zero or as absent.
-/

namespace CloudClient

/-- How long to wait before the next request. -/
inductive RetryAfter where
  /-- so many seconds -/
  | delay (seconds : Nat)
  /-- until a moment, in seconds since 1970-01-01 -/
  | date (moment : Nat)
  deriving DecidableEq

/-- The request window as an answer reports it. -/
structure RateLimit where
  /-- the number of requests allowed in the window -/
  limit : Nat
  /-- the number of requests that are left -/
  remaining : Nat
  /-- when the window ends, in seconds since 1970-01-01 -/
  reset : Option Nat
  /-- how long the server asks to wait -/
  retryAfter : Option RetryAfter
  deriving DecidableEq

namespace RateLimit

open Http

/-- What is reported when nothing is known. -/
def unknown : RateLimit := ⟨0, 0, none, none⟩

/-- The number in a header field, with blanks around it or none. -/
def number? (h : Headers) (name : HeaderName) : Option Nat := do
  Decimal.word? (Blank.trim (← h.text? name).toList)

/-- One more than the latest moment that can be told. -/
def momentLimit : Nat := 0x8000_0000_0000_0000

/-- The wait that the server asks for: a number of seconds, or a date after `now`. -/
def retryAfter? (now : Nat) (h : Headers) : Option RetryAfter := do
  let field ← h.text? "retry-after"
  match Decimal.word? field.toList with
  | some seconds => return .delay seconds
  | none => return .date (← (Time.HttpDate.parse? field).filter (now ≤ ·))

/-- The window that header fields report at the moment `now`. -/
def ofHeaders (now : Nat) (h : Headers) : RateLimit where
  limit := (number? h "ratelimit-limit").getD 0
  remaining := (number? h "ratelimit-remaining").getD 0
  reset := (number? h "ratelimit-reset").filter (· < momentLimit)
  retryAfter := retryAfter? now h

/-- Is the window used up? -/
def isExhausted (r : RateLimit) : Bool :=
  r.retryAfter.isSome || (0 < r.limit && r.remaining == 0)

end RateLimit

end CloudClient
