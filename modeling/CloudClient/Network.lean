import CloudClient.Request

/-!
# The network

A network is known by what each round trip on it brings: a head after some time, and then a body
after some more time, or a failure on the way. `Exchange.within` says what is left of a round trip
for a client that waits only so long.
-/

namespace CloudClient

/-- What a round trip brings. -/
inductive Reply where
  /-- nothing but a failure -/
  | failure (error : NetworkError)
  /-- the head of an answer, and its body, or a failure, so many milliseconds later -/
  | head (status : Http.Status) (headers : Http.Headers) (bodyDelay : Nat)
      (body : Except NetworkError Bytes)

/-- A round trip. -/
structure Exchange where
  /-- the milliseconds until the head comes, or the failure -/
  delay : Nat
  /-- what comes -/
  reply : Reply

/-- A network: what the round trip after so many others brings. -/
abbrev Network := Nat → Request → Exchange

/-- The failure of a round trip that takes too long. -/
def NetworkError.timedOut : NetworkError := ⟨"operation timed out", true⟩

/-- The failure of a request whose URL names no host. -/
def NetworkError.noHost : NetworkError := ⟨"url has no host", false⟩

namespace Exchange

/-- The round trip for a client that waits so many milliseconds for the whole answer. -/
def limited (e : Exchange) (timeout : Nat) : Exchange :=
  if timeout < e.delay then ⟨timeout, .failure .timedOut⟩
  else
    match e.reply with
    | .failure _ => e
    | .head status headers bodyDelay body =>
      if timeout - e.delay < bodyDelay then
        ⟨e.delay, .head status headers (timeout - e.delay) (.error .timedOut)⟩
      else ⟨e.delay, .head status headers bodyDelay body⟩

/-- The round trip for a client that may have a timeout. -/
def within (e : Exchange) (timeout : Option Nat) : Exchange :=
  match timeout with
  | some t => e.limited t
  | none => e

/-- The milliseconds until the round trip is over. -/
def duration (e : Exchange) : Nat :=
  match e.reply with
  | .failure _ => e.delay
  | .head _ _ bodyDelay _ => e.delay + bodyDelay

/-- With a timeout no round trip takes longer. -/
theorem duration_limited_le (e : Exchange) (timeout : Nat) :
    (e.limited timeout).duration ≤ timeout := by
  obtain ⟨delay, reply⟩ := e
  rw [limited]
  split
  · exact Nat.le_refl _
  · rename_i h
    cases reply with
    | failure error => exact Nat.le_of_not_lt h
    | head status headers bodyDelay body =>
      dsimp only at h ⊢
      split <;> simp only [duration] <;> omega

/-- The round trip that fails at once. -/
def refused (error : NetworkError) : Exchange := ⟨0, .failure error⟩

end Exchange

/-- The network whose round trips bring these in turn, and after them all the same. -/
def Network.ofList (exchanges : List Exchange) (after : Exchange) : Network := fun trips _ =>
  (exchanges[trips]?).getD after

end CloudClient
