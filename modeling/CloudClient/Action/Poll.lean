import CloudClient.Action.Basic
import CloudClient.Task

/-!
# Polling actions

Actions are waited for by asking for the running ones again and again, with pauses between, until
none is running any more. Every snapshot is reported, and so is the end of every poll. The reports
go to a function that may keep something from one report to the next, and may end the wait with an
error.

A poll has to bring as many snapshots as were asked for; if it does not, some action is gone, and
the wait ends with the ids of those that are missing. Nothing bounds the number of polls but the
server; `poll` takes a bound.
-/

namespace CloudClient

/-- What is reported while actions are waited for. -/
inductive PollEvent where
  /-- a snapshot of an action -/
  | update (action : Action)
  /-- the end of a poll -/
  | pollDone

/-- How to poll. -/
structure Polling (σ : Type) where
  /-- the pause before the poll with this number; the first one is number zero -/
  pause : Nat → Task σ Unit
  /-- asks for the actions with these ids -/
  fetch : List Int → Task σ (List Action)

/-- A function that takes reports, and keeps a value of type `τ` from one to the next. -/
abbrev Reporter (σ τ : Type) := τ → PollEvent → Task σ τ

/-- The reporter that hands snapshots on, and takes no notice of the ends of polls. -/
def Reporter.ofUpdates {σ τ : Type} (report : τ → Action → Task σ τ) : Reporter σ τ :=
  fun kept event =>
    match event with
    | .update a => report kept a
    | .pollDone => return kept

namespace Polling

variable {σ τ : Type}

/-! ## Running actions -/

/-- Adds an id to ids in ascending order. -/
def insertId (id : Int) : List Int → List Int
  | [] => [id]
  | i :: rest =>
    if id < i then id :: i :: rest
    else if id = i then i :: rest
    else i :: insertId id rest

/-- The ids of the running ones among actions, ascending and each once. -/
def runningIds (actions : List Action) : List Int :=
  (actions.filter (·.isRunning)).foldl (fun ids a => insertId a.id ids) []

/-- The ids that no snapshot has. -/
def missingIds (running : List Int) (updates : List Action) : List Int :=
  running.filter fun id => updates.all (·.id != id)

/-- The ids that are still running after a snapshot. -/
def stillRunning (running : List Int) (update : Action) : List Int :=
  if update.isFinished then running.filter (· != update.id) else running

/-! ## Polls -/

/-- Reports snapshots in turn. -/
def reportAll (report : Reporter σ τ) : τ → List Action → Task σ τ
  | kept, [] => return kept
  | kept, a :: rest => do
    let kept ← report kept (.update a)
    reportAll report kept rest

/-- One poll: the ids that are still running after it, and what the reports have left. -/
def once (p : Polling σ) (report : Reporter σ τ) (number : Nat) (running : List Int) (kept : τ) :
    Task σ (List Int × τ) := do
  p.pause number
  let updates ← p.fetch running
  if updates.length = running.length then
    let kept ← reportAll report kept updates
    let kept ← report kept .pollDone
    return (updates.foldl stillRunning running, kept)
  else Task.fail (.actionsNotFound (missingIds running updates))

/-- Polls until no action is running any more; at most so many times. -/
def loop (p : Polling σ) (report : Reporter σ τ) :
    (rounds number : Nat) → List Int → τ → Task σ τ
  | _, _, [], kept => return kept
  | 0, _, _ :: _, _ => Task.giveUp
  | rounds + 1, number, id :: rest, kept => do
    let (running, kept) ← once p report number (id :: rest) kept
    loop p report rounds (number + 1) running kept

/-- Waits for actions: reports the finished ones, and then polls for the others. -/
def poll (rounds : Nat) (p : Polling σ) (report : Reporter σ τ) (kept : τ)
    (actions : List Action) : Task σ τ := do
  let kept ← reportAll report kept (actions.filter (·.isFinished))
  let kept ← report kept .pollDone
  loop p report rounds 0 (runningIds actions) kept

end Polling

end CloudClient
