/-!
# Channels

A channel has room for so many values. One side offers values and never waits: what finds no room is
dropped. The other side receives the values in the order in which they were offered. What is
received in the end depends on how the moves of the two sides follow each other; `Channel.run` tells
it for any list of moves.
-/

namespace CloudClient

/-- A move of one of the two sides. -/
inductive Move (α : Type) where
  /-- a value is offered -/
  | offer (x : α)
  /-- the next value is received, if there is one -/
  | receive

/-- A channel, and what has been received from it. -/
structure Channel (α : Type) where
  /-- how many values there is room for -/
  capacity : Nat
  /-- the values that wait, the oldest first -/
  waiting : List α
  /-- the values that were received, the oldest first -/
  received : List α

namespace Channel

variable {α : Type}

/-- An empty channel. -/
def empty (capacity : Nat) : Channel α := ⟨capacity, [], []⟩

/-- The channel after a move. -/
def step (c : Channel α) : Move α → Channel α
  | .offer x => if c.waiting.length < c.capacity then { c with waiting := c.waiting ++ [x] } else c
  | .receive =>
    match c.waiting with
    | [] => c
    | x :: rest => { c with waiting := rest, received := c.received ++ [x] }

/-- The channel after moves. -/
def run (c : Channel α) (moves : List (Move α)) : Channel α := moves.foldl step c

/-- Receives all that waits. -/
def drain (capacity : Nat) : List (Move α) := List.replicate capacity .receive

/-- The moves when all that waits is received before the clock moves on. The values come with the
moments at which they are offered; `last` is the moment of the offer before. -/
def promptMoves (capacity : Nat) : Option Nat → List (Nat × α) → List (Move (Nat × α))
  | _, [] => drain capacity
  | last, (moment, x) :: rest =>
    (if last = some moment then [] else drain capacity) ++
      .offer (moment, x) :: promptMoves capacity (some moment) rest

/-- What is received if all that waits is received before the clock moves on. -/
def promptly (capacity : Nat) (offers : List (Nat × α)) : List (Nat × α) :=
  ((empty capacity).run (promptMoves capacity none offers)).received

/-- What is received if nothing is received before the last offer. -/
def lately (capacity : Nat) (offers : List (Nat × α)) : List (Nat × α) :=
  ((empty capacity).run (offers.map .offer ++ drain capacity)).received

/-- No move makes more values wait than there is room for. -/
theorem length_waiting_step_le {c : Channel α} (m : Move α)
    (h : c.waiting.length ≤ c.capacity) :
    (c.step m).waiting.length ≤ (c.step m).capacity := by
  cases m with
  | offer x =>
    simp only [step]
    split
    · simp only [List.length_append, List.length_singleton]; omega
    · exact h
  | receive =>
    simp only [step]
    split
    · exact h
    · rename_i x rest hw
      rw [hw] at h
      exact Nat.le_of_succ_le h

end Channel

end CloudClient
