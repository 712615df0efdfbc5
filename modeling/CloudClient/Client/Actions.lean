import CloudClient.Action.Codec
import CloudClient.Action.Filter
import CloudClient.Action.Progress
import CloudClient.Client.Send
import CloudClient.Paging

/-!
# Actions of the API

What a client can do with actions: get one, list them by page or all at once, wait for some, and
watch the progress of some. All of it runs within a lifetime. What may go on as long as the server
likes takes a bound on its rounds: on the pages of a list, and on the polls of a wait.
-/

namespace CloudClient.Client

/-! ## Getting and listing -/

/-- The path of actions. -/
def actionsPath : String := "/actions"

/-- The path of the action with this id. -/
def actionPath (id : Int) : String := actionsPath ++ "/" ++ Decimal.intText id

/-- What an error says about the action with an id: that there is none, or just that something went
wrong. -/
def missingAction (e : Error) : Task Session (Option Action × Response) :=
  match e with
  | .api ⟨.notFound, _, _, some response⟩ => return (none, response)
  | _ => Task.fail e

/-- The action with this id, if there is one, and the answer. -/
def action (c : Client) (l : Lifetime) (id : Int) : Task Session (Option Action × Response) := do
  let request ← Task.ofExcept (c.request l "GET" (actionPath id) none)
  match ← (c.executeJson Action.ofEnvelope? request).attempt with
  | .ok (action, response) => return (some action, response)
  | .error e => missingAction e

/-- The request for one page of actions. -/
def actionsRequest (c : Client) (l : Lifetime) (f : ActionFilter) : Except Error Request := do
  let request ← c.request l "GET" actionsPath none
  return request.withParameters f.pairs

/-- One page of actions. -/
def actions (c : Client) (l : Lifetime) (f : ActionFilter) : Task Session (Page Action) := do
  let request ← Task.ofExcept (c.actionsRequest l f)
  let (items, response) ← c.executeJson Action.listOfEnvelope? request
  return ⟨items, response⟩

/-- The actions of all pages. -/
def allActions (c : Client) (rounds : Nat) (l : Lifetime) (f : ActionFilter) :
    Task Session (List Action) :=
  Paging.collect rounds fun page => c.actions l (f.atPage page)

/-! ## Waiting -/

/-- How a client polls for actions. -/
def polling (c : Client) (rounds : Nat) (l : Lifetime) : Polling Session where
  pause := Session.pause l c.pollBackoff
  fetch ids := c.allActions rounds l (.ofIds ids)

/-- Waits for actions, and reports every snapshot to a function that may end the wait. -/
def waitReporting {τ : Type} (c : Client) (rounds : Nat) (l : Lifetime)
    (report : τ → Action → Task Session τ) (kept : τ) (actions : List Action) : Task Session τ :=
  (c.polling rounds l).poll rounds (.ofUpdates report) kept actions

/-- Ends a wait with the first failure. -/
def stopAtFailure (_ : Unit) (a : Action) : Task Session Unit :=
  match a.error? with
  | some e => Task.fail (.action e)
  | none => return ()

/-- Waits until actions have succeeded, or one of them has failed. -/
def waitFor (c : Client) (rounds : Nat) (l : Lifetime) (actions : List Action) :
    Task Session Unit :=
  c.waitReporting rounds l stopAtFailure () actions

/-! ## Watching -/

/-- The watcher that notes all news in the log. -/
def logWatcher : Watcher Session where
  offer percent := Session.note (.progressed percent)
  tell e := Session.note (.failed e)
  finish result := Session.note (.finished result)

/-- Watches one action. -/
def watchProgress (c : Client) (rounds : Nat) (l : Lifetime) (action : Action) :
    Task Session Unit :=
  (c.polling rounds l).watchOne rounds logWatcher action

/-- Watches actions. -/
def watchOverallProgress (c : Client) (rounds : Nat) (l : Lifetime) (actions : List Action) :
    Task Session Unit :=
  (c.polling rounds l).watchOverall rounds logWatcher actions

end CloudClient.Client
