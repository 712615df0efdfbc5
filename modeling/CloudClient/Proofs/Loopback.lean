import CloudClient.Client.Actions

/-!
# A client of a server on the loopback address

What is proved of all clients can be looked at with one of them. This one is as plain as a client
can be: it has no token and no timeout, it polls twice a second, and it does not retry. Its server
gives the answers of a script at once.
-/

namespace CloudClient.Loopback

/-- The client. -/
def client : Client where
  endpoint := "http://[::1]"
  authorization := none
  userAgent := textBytes defaultUserAgent
  timeout := none
  retry := ⟨.constant ⟨0⟩, 0, .transient⟩
  pollBackoff := .forPolls
  isTranscribed := false
  isInstrumented := false

/-- The answer with a JSON body. -/
def answer (v : Json.Value) : Exchange :=
  ⟨0, .head ⟨200⟩ (.ofList [("content-type", Client.jsonType)]) 0 (.ok v.bytes)⟩

/-- The answer with a list of actions. -/
def listing (actions : List Action) : Exchange :=
  answer (.object [("actions", .array (actions.map Action.value))])

/-- A session in which the server gives these answers in turn, and then none. -/
def session (answers : List Exchange) : Session :=
  .start ⟨.ofList answers (.refused .noHost), 0, fun low _ => low⟩ (.empty none)

/-- The snapshot of an action of which no more is known than where it stands. -/
def snapshot (id : Int) (status : ActionStatus) : Action :=
  ⟨id, status, "", 0, .epoch, none, none, []⟩

/-- The failure of an action of which no more is known. -/
def failure (id : Int) : ActionError :=
  ⟨Action.unknownFailure.code, Action.unknownFailure.message, some id⟩

end CloudClient.Loopback
