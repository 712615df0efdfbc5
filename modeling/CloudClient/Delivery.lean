import CloudClient.Channel
import CloudClient.Session

/-!
# Deliveries

A watch hands its news to the caller through two channels: percentages through one that has room for
a single value, and failures, with the end of the watch after them, through one that has room for
all of them. The watch never waits for the caller, except to tell the end. A `Delivery` is what the
caller receives.
-/

namespace CloudClient

/-- The percentage that an event offers. -/
def Event.percent? : Event → Option UInt32
  | progressed percent => some percent
  | _ => none

/-- The failure that an event tells of. -/
def Event.failure? : Event → Option (Except Error Unit)
  | failed e => some (.error (.action e))
  | _ => none

/-- The end that an event tells of. -/
def Event.finish? : Event → Option (Except Error Unit)
  | finished result => some result
  | _ => none

/-- What has been received from the channels of a watch, and when it was sent. -/
structure Delivery where
  /-- the percentages -/
  progress : List (Moment × UInt32)
  /-- the failures, and then how the watch ended -/
  results : List (Moment × Except Error Unit)

namespace Delivery

/-- What the events of a history bring, with the moments. -/
def brought {α : Type} (read : Event → Option α) (history : List (Moment × Event)) :
    List (Moment × α) :=
  history.filterMap fun e => (read e.2).map fun x => (e.1, x)

/-- The room for percentages. -/
def progressRoom : Nat := 1

/-- The room for the results of a watch of so many actions: each of them may fail, and the watch
ends. -/
def resultsRoom (watched : Nat) : Nat := watched + 1

/-- What is received in the end through the channel of failures, with this room. -/
def resultsOf (room : Nat) (history : List (Moment × Event)) :
    List (Moment × Except Error Unit) :=
  Channel.promptly room (brought Event.failure? history) ++ brought Event.finish? history

/-- What a caller receives who reads both channels as soon as something arrives. -/
def prompt (room : Nat) (history : List (Moment × Event)) : Delivery where
  progress := Channel.promptly progressRoom (brought Event.percent? history)
  results := resultsOf room history

/-- What a caller receives who reads the percentages after all else. -/
def late (room : Nat) (history : List (Moment × Event)) : Delivery where
  progress := Channel.lately progressRoom (brought Event.percent? history)
  results := resultsOf room history

end Delivery

end CloudClient
