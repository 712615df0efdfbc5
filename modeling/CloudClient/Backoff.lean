import CloudClient.Time.Duration

/-!
# Backoff

A `Backoff` gives the wait before the next try, from the number of tries that failed before. It
serves both the retries of a request and the polls of actions.

A growing schedule may spread its waits: then a wait is drawn between the base and the computed
value. The draw is a parameter, and `Backoff.window` gives its bounds.
-/

namespace CloudClient

/-- A schedule of waits. -/
inductive Backoff where
  /-- always the same wait -/
  | constant (delay : Duration)
  /-- `base · multiplier ^ attempt`, at most the cap if there is one; with `jitter` each wait is
  drawn between the base and this value -/
  | exponential (base : Duration) (multiplier : Float) (cap : Option Duration) (jitter : Bool)
  /-- any other schedule -/
  | custom (delay : Nat → Duration)

namespace Backoff

/-! ## Powers -/

/-- The greatest exponent of a power. -/
def exponentLimit : Nat := 0x7FFF_FFFF

/-- `r · a ^ n` by repeated squaring, for an exponent below `2 ^ bits`. -/
def powerFrom : Nat → Float → Float → Nat → Float
  | 0, r, _, _ => r
  | bits + 1, r, a, n =>
    let r := if n % 2 = 1 then r * a else r
    if n / 2 = 0 then r else powerFrom bits r (a * a) (n / 2)

/-- A power with an exponent of at most `exponentLimit`. -/
def power (a : Float) (n : Nat) : Float := powerFrom 31 1.0 a (min n exponentLimit)

/-- The lesser of two numbers, of which the first may be undefined. -/
def lesser (x y : Float) : Float := if x.isNaN then y else if y < x then y else x

/-! ## Waits -/

/-- The wait in seconds after `attempt` failed tries before the last one, before any draw. A value
that overflows or is negative falls back to the cap, or else to the base. -/
def grownSeconds (base : Duration) (multiplier : Float) (cap : Option Duration) (attempt : Nat) :
    Float :=
  let grown := base.toSeconds * power multiplier attempt
  let capped := match cap with
    | some c => lesser grown c.toSeconds
    | none => grown
  if capped.isNaN || capped.isInf || capped < 0.0 then (cap.getD base).toSeconds else capped

/-- A way to draw a number between two bounds. -/
abbrev Draw := Float → Float → Float

/-- The wait after `attempt` failed tries before the last one. -/
def delay (draw : Draw) (b : Backoff) (attempt : Nat) : Duration :=
  match b with
  | constant delay => delay
  | exponential base multiplier cap jitter =>
    let seconds := grownSeconds base multiplier cap attempt
    .ofSeconds
      (if jitter && base.toSeconds < seconds then draw base.toSeconds seconds else seconds)
  | custom delay => delay attempt

/-- The shortest and the longest wait that can be drawn. -/
def window (b : Backoff) (attempt : Nat) : Duration × Duration :=
  (b.delay (fun low _ => low) attempt, b.delay (fun _ high => high) attempt)

/-- Are waits drawn? -/
def isSpread : Backoff → Bool
  | exponential _ _ _ jitter => jitter
  | _ => false

/-! ## Common schedules -/

/-- The schedule of retries: from a second, doubling, at most a minute, spread. -/
def forRetries : Backoff := exponential (.ofMillis 1000) 2.0 (some (.ofMillis 60000)) true

/-- The schedule of polls: every half second. -/
def forPolls : Backoff := constant (.ofMillis 500)

/-- The schedule that runs through a list of waits and stays at the last one. -/
def ofList (delays : List Duration) : Backoff :=
  custom fun attempt => (delays[attempt]?).getD (delays.getLast?.getD ⟨0⟩)

/-! ## Text -/

/-- The layout of a multiplier. -/
def multiplierStyle : Shortest.Style := ⟨-3, 16⟩

/-- A description of a cap. -/
def capText : Option Duration → String
  | some c => "Some(" ++ c.text ++ ")"
  | none => "None"

/-- A truth value as a word. -/
def flagText (b : Bool) : String := if b then "true" else "false"

/-- A description of the schedule. -/
def text : Backoff → String
  | constant delay => "Constant(" ++ delay.text ++ ")"
  | exponential base multiplier cap jitter =>
    "Exponential \x7b base: " ++ base.text ++
      ", multiplier: " ++ multiplierStyle.render multiplier ++
      ", cap: " ++ capText cap ++ ", jitter: " ++ flagText jitter ++ " \x7d"
  | custom _ => "Custom(..)"

end Backoff

end CloudClient
