import CloudClient.Client.Actions

/-!
# Programs

What a program does with a client: one call after the other, each of which may depend on how the
earlier ones have ended. Nothing else is known of a program, so that what is proved of all programs
holds of whatever callers do.
-/

namespace CloudClient

/-- A call of a client, with what it gives to the caller. What may go on for ever is called with a
bound on its rounds. -/
inductive Call : Type → Type 1 where
  /-- sends a request -/
  | execute (r : Request) : Call Response
  /-- sends a request, and reads the answer -/
  | executeJson {α : Type} (read : Json.Tree → Option α) (r : Request) : Call (α × Response)
  /-- gets an action -/
  | action (l : Lifetime) (id : Int) : Call (Option Action × Response)
  /-- gets a page of actions -/
  | actions (l : Lifetime) (f : ActionFilter) : Call (Page Action)
  /-- gets the actions of all pages -/
  | allActions (rounds : Nat) (l : Lifetime) (f : ActionFilter) : Call (List Action)
  /-- waits for actions -/
  | waitFor (rounds : Nat) (l : Lifetime) (watched : List Action) : Call Unit
  /-- waits for actions, and hands every snapshot to a function that may end the wait -/
  | waitReporting {τ : Type} (rounds : Nat) (l : Lifetime) (report : τ → Action → Except Error τ)
      (kept : τ) (watched : List Action) : Call τ
  /-- watches an action -/
  | watchProgress (rounds : Nat) (l : Lifetime) (watched : Action) : Call Unit
  /-- watches actions -/
  | watchOverallProgress (rounds : Nat) (l : Lifetime) (watched : List Action) : Call Unit

/-- What a program does with a client: one call after the other. A program goes on with the outcome
of each call, and so it may look at anything that it has been given. -/
inductive Program : Type 1 where
  /-- no more calls -/
  | stop
  /-- a call, and what follows each of its outcomes -/
  | call {α : Type} (op : Call α) (next : Outcome α → Program)

/-- Calls a client. -/
def Call.run (c : Client) {α : Type} : Call α → Task Session α
  | .execute r => c.execute r
  | .executeJson read r => c.executeJson read r
  | .action l id => c.action l id
  | .actions l f => c.actions l f
  | .allActions rounds l f => c.allActions rounds l f
  | .waitFor rounds l watched => c.waitFor rounds l watched
  | .waitReporting rounds l report kept watched =>
    c.waitReporting rounds l (fun kept a => Task.ofExcept (report kept a)) kept watched
  | .watchProgress rounds l watched => c.watchProgress rounds l watched
  | .watchOverallProgress rounds l watched => c.watchOverallProgress rounds l watched

/-- What a program makes of a session. -/
def Program.run (c : Client) : Program → Session → Session
  | .stop, s => s
  | .call op next, s => (next (op.run c s).1).run c (op.run c s).2

end CloudClient
