import CloudClient.Lifetime
import CloudClient.Time.Duration

/-!
# Contexts

Callers hand a context to every operation. A context is made from nothing or from another context;
it is canceled together with the contexts that it comes from, and it has the earliest of the
deadlines that were asked for on the way to it.

Each context has a token of its own, and canceling the token cancels the context and all that come
from it. A `Timeline` holds the clock and what is known about the tokens; `Timeline.lifetime` says
how long a context lives.
-/

namespace CloudClient

/-- A token, by the number of tokens that were made before it. -/
abbrev Token := Nat

/-- A context. -/
structure Context where
  /-- the own token, and then those of the contexts that it comes from -/
  tokens : List Token
  /-- the earliest deadline that was asked for on the way -/
  deadline : Option Moment
  deriving DecidableEq

/-- The clock, and the tokens. -/
structure Timeline where
  /-- what the clock shows -/
  now : Moment
  /-- how many tokens were made -/
  made : Nat
  /-- the tokens that were canceled or are going to be, and when -/
  cancellations : List (Token × Moment)
  deriving DecidableEq

/-- The earlier one of two moments, of which the first may be missing. -/
def earlier (a : Option Moment) (b : Moment) : Moment :=
  match a with
  | some a => min a b
  | none => b

namespace Timeline

/-- The start of the clock, with no tokens. -/
def start : Timeline := ⟨0, 0, []⟩

/-- A new token. -/
def newToken (t : Timeline) : Token × Timeline := (t.made, { t with made := t.made + 1 })

/-- A context that comes from no other: it is not canceled and has no deadline. -/
def background (t : Timeline) : Context × Timeline :=
  let (token, t) := t.newToken
  (⟨[token], none⟩, t)

/-- A context that comes from another one and can be canceled on its own. -/
def withCancel (c : Context) (t : Timeline) : Context × Timeline :=
  let (token, t) := t.newToken
  (⟨token :: c.tokens, c.deadline⟩, t)

/-- A context that comes from another one and ends at a moment at the latest. -/
def withDeadline (moment : Moment) (c : Context) (t : Timeline) : Context × Timeline :=
  let (token, t) := t.newToken
  (⟨token :: c.tokens, some (earlier c.deadline moment)⟩, t)

/-- One more than the latest second that the clock can show. -/
def secondLimit : Nat := 0x8000_0000_0000_0000

/-- The moment after a span of time, if the clock can show it. -/
def after? (t : Timeline) (d : Duration) : Option Moment :=
  if d.seconds + t.now / 1000 < secondLimit then some (t.now + d.millis) else none

/-- A context that comes from another one and ends after a span of time at the latest. A span too
long for the clock adds no deadline. -/
def withTimeout (d : Duration) (c : Context) (t : Timeline) : Context × Timeline :=
  match t.after? d with
  | some moment => withDeadline moment c t
  | none => withCancel c t

/-- Cancels a token at a moment. -/
def cancelAt (token : Token) (moment : Moment) (t : Timeline) : Timeline :=
  { t with cancellations := (token, moment) :: t.cancellations }

/-- Cancels a context and all that come from it. -/
def cancel (c : Context) (t : Timeline) : Timeline :=
  match c.tokens with
  | token :: _ => t.cancelAt token t.now
  | [] => t

/-- Moves the clock on. -/
def advance (millis : Nat) (t : Timeline) : Timeline := { t with now := t.now + millis }

/-- When a token among these is canceled first, if ever. -/
def firstCancellation (tokens : List Token) (t : Timeline) : Option Moment :=
  ((t.cancellations.filter fun c => tokens.contains c.1).map (·.2)).min?

/-- How long a context lives. -/
def lifetime (c : Context) (t : Timeline) : Lifetime :=
  ⟨t.firstCancellation c.tokens, c.deadline⟩

/-- How a context has ended, if it has. -/
def ending? (c : Context) (t : Timeline) : Option Ending := (t.lifetime c).ending? t.now

/-- Waits within a context: the clock moves on, and the context may end. -/
def wait (c : Context) (millis : Nat) (t : Timeline) : Option Ending × Timeline :=
  let (moment, ending) := (t.lifetime c).wait t.now millis
  (ending, { t with now := moment })

end Timeline

end CloudClient
