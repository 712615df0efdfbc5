import CloudClient.Action.Basic
import CloudClient.Backoff
import CloudClient.Metrics
import CloudClient.Network
import CloudClient.Transcript

/-!
# Sessions

A `Session` is the state that a client works on: the clock, the network and how far it has been
used, and all that leaves a trace. Its log tells in order which requests were sent, which errors
were judged, and what was reported to the caller.

Time passes only while an operation waits, and every wait goes through `Session.wait`.
-/

namespace CloudClient

/-- What a session finds given. -/
structure Surroundings where
  /-- the network -/
  network : Network
  /-- the time of day when the clock was started, in seconds since 1970-01-01 -/
  startTime : Nat
  /-- how waits are drawn -/
  draw : Backoff.Draw

/-- What is noted in the log. -/
inductive Event where
  /-- a request was sent -/
  | sent (request : Request)
  /-- it was asked whether an error is worth another attempt -/
  | judged (error : Error) (attempt : Nat)
  /-- a snapshot was reported to the caller -/
  | updated (action : Action)
  /-- a percentage was offered to the caller -/
  | progressed (percent : UInt32)
  /-- the caller was told of a failed action -/
  | failed (error : ActionError)
  /-- the caller was told how a watch ended -/
  | finished (result : Except Error Unit)

/-- The state that a client works on. -/
structure Session where
  /-- what the session finds given -/
  surroundings : Surroundings
  /-- what the clock shows -/
  now : Moment
  /-- how many round trips were started -/
  trips : Nat
  /-- what was noted and when, the latest first -/
  log : List (Moment × Event)
  /-- what was written down -/
  transcript : Transcript
  /-- what was counted -/
  metrics : Metrics

namespace Session

/-- A session in which nothing has happened yet. -/
def start (surroundings : Surroundings) (transcript : Transcript) : Session :=
  ⟨surroundings, 0, 0, [], transcript, .empty⟩

/-- The time of day, in seconds since 1970-01-01. -/
def timeOfDay (s : Session) : Nat := s.surroundings.startTime + s.now / 1000

/-- The session with an event in its log. -/
def noted (event : Event) (s : Session) : Session := { s with log := (s.now, event) :: s.log }

/-- The log from the first event on. -/
def history (s : Session) : List (Moment × Event) := s.log.reverse

/-! ## Steps -/

/-- Notes an event. -/
def note (event : Event) : Task Session Unit := Task.update (noted event)

/-- Waits so many milliseconds, unless the lifetime ends first. -/
def wait (l : Lifetime) (millis : Nat) : Task Session Unit := fun s =>
  match l.wait s.now millis with
  | (moment, none) => (.done (), { s with now := moment })
  | (moment, some ending) => (.failed (.ended ending), { s with now := moment })

/-- Waits so long as a schedule says for this attempt, unless the lifetime ends first. -/
def pause (l : Lifetime) (b : Backoff) (attempt : Nat) : Task Session Unit := do
  let s ← Task.state
  wait l (b.delay s.surroundings.draw attempt).millis

/-- Starts a round trip. -/
def send (r : Request) : Task Session Exchange := fun s =>
  (.done (s.surroundings.network s.trips r), { s.noted (.sent r) with trips := s.trips + 1 })

/-- Ends a round trip that has failed, or has brought all of an answer. -/
def receive (l : Lifetime) : Reply → Task Session Response
  | .failure error => Task.fail (.network error)
  | .head status headers bodyDelay body => do
    wait l bodyDelay
    match body with
    | .error error => Task.fail (.network error)
    | .ok bytes => return .received status headers bytes

/-- A whole round trip of a client that may have a timeout. -/
def roundTrip (timeout : Option Nat) (r : Request) : Task Session Response := do
  -- nothing is sent when the lifetime is over
  wait r.lifetime 0
  if r.url.hostText?.isNone then Task.fail (.network .noHost)
  else
    let exchange ← send r
    let exchange := exchange.within timeout
    wait r.lifetime exchange.delay
    receive r.lifetime exchange.reply

/-- Writes something down. -/
def transcribe (bytes : Bytes) : Task Session Unit :=
  Task.update fun s => { s with transcript := s.transcript.write bytes }

/-- Counts a round trip. -/
def observe (r : Request) (status : Http.Status) : Task Session Unit :=
  Task.update fun s => { s with metrics := s.metrics.observe status r.method r.operation }

end Session

end CloudClient
