import CloudClient.Backoff
import CloudClient.Task

/-!
# Retries

A request that fails may be sent again. `retry` says how often and when: after each failure it is
judged whether another attempt is worth while, and if so, and if there are attempts left, the next
one follows after a pause. The outcome of the last attempt is the outcome of the whole.

Attempts are numbered from zero, and each of them gets the same request. `retry` knows neither what
a request is nor what a clock is; attempts, pauses and judgements are given to it.
-/

namespace CloudClient

/-- A rule that says whether an error, met in the attempt with this number, is worth another
attempt. -/
abbrev RetryRule := Error → Nat → Bool

namespace RetryRule

/-- Errors that may go away by themselves are. -/
def transient : RetryRule := fun e _ => e.isTransient

/-- Errors that come from an API error with one of these codes are. -/
def ofCodes (codes : List ErrorCode) : RetryRule := fun e _ => codes.any (e.hasCode ·)

/-- All errors in the first `n` attempts are. -/
def below (n : Nat) : RetryRule := fun _ attempt => attempt < n

end RetryRule

/-- How a client retries. -/
structure RetryPolicy where
  /-- the pauses -/
  backoff : Backoff
  /-- how many attempts may follow the first one -/
  limit : Nat
  /-- which errors are worth another attempt -/
  rule : RetryRule

/-- The policy of a client that is not told otherwise. -/
def RetryPolicy.default : RetryPolicy := ⟨.forRetries, 5, .transient⟩

variable {σ ρ α : Type}

/-- Makes the attempt with this number. If it fails and is judged worth another one, `next` goes on
from its error. -/
def tryOnce (judge : Error → Nat → Task σ Bool) (send : ρ → Task σ α) (request : ρ)
    (attempt : Nat) (next : Error → Task σ α) : Task σ α := do
  match ← (send request).attempt with
  | .ok a => return a
  | .error e => do
    if ← judge e attempt then next e else Task.fail e

/-- Makes the attempt with this number, and then at most `left` more, each after a pause. -/
def retryFrom (judge : Error → Nat → Task σ Bool) (pause : Nat → Task σ Unit)
    (send : ρ → Task σ α) (request : ρ) : (left attempt : Nat) → Task σ α
  | 0, attempt => tryOnce judge send request attempt Task.fail
  | left + 1, attempt =>
    tryOnce judge send request attempt fun _ => do
      pause attempt
      retryFrom judge pause send request left (attempt + 1)

/-- Makes an attempt, and at most `limit` more. -/
def retry (judge : Error → Nat → Task σ Bool) (pause : Nat → Task σ Unit) (limit : Nat)
    (send : ρ → Task σ α) (request : ρ) : Task σ α :=
  retryFrom judge pause send request limit 0

end CloudClient
