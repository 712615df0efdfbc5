import CloudClient.Action.Poll

/-!
# Watching progress

Whoever watches actions is offered percentages while they run, and is told in the end how the watch
ended. `watchOne` offers the progress of one action; `watchOverall` offers the average over many,
once after each poll that changes it, and tells of every failure as soon as it is seen.

The average is made with numbers of 32 bits, and additions are checked. A watch whose sum overflows
breaks off there and then, and nobody is told how it ended.
-/

namespace CloudClient

/-- Where news of watched actions go. -/
structure Watcher (σ : Type) where
  /-- offers a percentage -/
  offer : UInt32 → Task σ Unit
  /-- tells of a failed action -/
  tell : ActionError → Task σ Unit
  /-- tells how the watch ended -/
  finish : Except Error Unit → Task σ Unit

namespace Action

/-- How far an action has come; a finished one is through. -/
def percent (a : Action) : UInt32 := if a.isRunning then a.progress else 100

end Action

/-- The sum of two numbers of 32 bits, unless it overflows. -/
def checkedAdd? (x y : UInt32) : Option UInt32 :=
  if x.toNat + y.toNat < UInt32.size then some (x + y) else none

/-- The sum of numbers of 32 bits, added one after the other, unless an addition overflows. -/
def checkedSum? (xs : List UInt32) : Option UInt32 := xs.foldlM checkedAdd? 0

/-- The progress of many actions. -/
structure OverallProgress where
  /-- how far each action has come, by id -/
  byAction : List (Int × UInt32)
  /-- the average that was offered last, or zero -/
  offered : UInt32
  deriving DecidableEq

namespace OverallProgress

/-- Nothing seen yet. -/
def start : OverallProgress := ⟨[], 0⟩

/-- Sets the percentage of an id. -/
def setPercent (id : Int) (percent : UInt32) : List (Int × UInt32) → List (Int × UInt32)
  | [] => [(id, percent)]
  | (i, p) :: rest =>
    if i = id then (i, percent) :: rest else (i, p) :: setPercent id percent rest

/-- The progress after a snapshot. -/
def record (p : OverallProgress) (a : Action) : OverallProgress :=
  { p with byAction := setPercent a.id a.percent p.byAction }

/-- The sum of the percentages, unless it overflows. -/
def sum? (p : OverallProgress) : Option UInt32 := checkedSum? (p.byAction.map (·.2))

/-- Does the sum of the percentages overflow? -/
def overflows (p : OverallProgress) : Bool := p.sum?.isNone

/-- The average over so many actions, unless the sum overflows; over none it is zero. -/
def average? (p : OverallProgress) (total : UInt32) : Option UInt32 :=
  p.sum?.map fun sum => if total = 0 then 0 else sum / total

/-- The average, if it is worth an offer: neither zero nor the one that was offered last. -/
def news? (p : OverallProgress) (total : UInt32) : Option UInt32 :=
  (p.average? total).filter fun average => average ≠ 0 ∧ average ≠ p.offered

end OverallProgress

namespace Polling

variable {σ : Type}

/-- Reports snapshots of one action: its percentage is offered, and its failure ends the wait. -/
def reportOne (w : Watcher σ) : Reporter σ Unit
  | _, .update a =>
    match a.error? with
    | some e => Task.fail (.action e)
    | none => w.offer a.percent
  | _, .pollDone => return ()

/-- Reports snapshots of `total` actions, up to a poll after which the sum of their percentages
overflows. -/
def reportOverall (w : Watcher σ) (total : UInt32) : Reporter σ OverallProgress
  | p, .update a => do
    match a.error? with
    | some e => w.tell e
    | none => pure ()
    return p.record a
  | p, .pollDone =>
    if p.overflows then Task.giveUp
    else
      match p.news? total with
      | some average => do
        w.offer average
        return { p with offered := average }
      | none => return p

/-- Tells how a wait ended. -/
def finished {τ : Type} (w : Watcher σ) (t : Task σ τ) : Task σ Unit := do
  let result ← t.attempt
  w.finish (result.map fun _ => ())

/-- Watches one action. -/
def watchOne (rounds : Nat) (p : Polling σ) (w : Watcher σ) (action : Action) : Task σ Unit :=
  finished w (poll rounds p (reportOne w) () [action])

/-- Watches actions. -/
def watchOverall (rounds : Nat) (p : Polling σ) (w : Watcher σ) (actions : List Action) :
    Task σ Unit :=
  finished w (poll rounds p (reportOverall w (UInt32.ofNat actions.length)) .start actions)

end Polling

end CloudClient
