import CloudClient.Client.Basic
import CloudClient.Session
import CloudClient.Verdict

/-!
# Sending requests

How a client gets from a request to an answer. An attempt is one round trip and the verdict on what
it brings; it is written down and counted if the client does that. Attempts are repeated as the
retry policy says, and the answer of the last one is read for its place in a list.
-/

namespace CloudClient.Client

/-- One round trip, counted once its whole answer is there. -/
def countedTrip (c : Client) (r : Request) : Task Session Response := do
  let response ← Session.roundTrip c.timeout r
  if c.isInstrumented then Session.observe r response.status
  return response

/-- One round trip and the verdict on it. -/
def judgedTrip (c : Client) (r : Request) : Task Session Response := do
  let response ← c.countedTrip r
  let s ← Task.state
  Task.ofExcept (response.limited s.timeOfDay).verdict

/-- Writes down the answer that a round trip has brought, if it has brought one. -/
def transcribeOutcome (outcome : Except Error Response) : Task Session Unit :=
  match outcome with
  | .ok response => Session.transcribe (Transcript.responseEntry response)
  | .error e =>
    match e.response? with
    | some response => Session.transcribe (Transcript.responseEntry response)
    | none => return ()

/-- One attempt. -/
def attempt (c : Client) (r : Request) : Task Session Response :=
  if c.isTranscribed then do
    Session.transcribe (Transcript.requestEntry r)
    let outcome ← (c.judgedTrip r).attempt
    transcribeOutcome outcome
    Task.ofExcept outcome
  else c.judgedTrip r

/-- Judges whether an error is worth another attempt. -/
def judge (c : Client) (e : Error) (attempt : Nat) : Task Session Bool := do
  Session.note (.judged e attempt)
  return c.retry.rule e attempt

/-- All attempts, if `send` makes one. -/
def attemptsBy (c : Client) (send : Request → Task Session Response) (r : Request) :
    Task Session Response :=
  CloudClient.retry c.judge (Session.pause r.lifetime c.retry.backoff) c.retry.limit send r

/-- All attempts. -/
def attempts (c : Client) (r : Request) : Task Session Response := c.attemptsBy c.attempt r

/-- Sends a request, and gives the answer. -/
def execute (c : Client) (r : Request) : Task Session Response := do
  let response ← c.attempts r
  Task.ofExcept response.paginated

/-- Sends a request, and gives the value that the body of the answer holds. -/
def executeJson {α : Type} (c : Client) (read : Json.Tree → Option α) (r : Request) :
    Task Session (α × Response) := do
  let response ← c.execute r
  let value ← Task.ofExcept (response.decoded read)
  return (value, response)

end CloudClient.Client
