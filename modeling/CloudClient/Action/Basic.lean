import CloudClient.Error.Basic
import CloudClient.Time.Timestamp

/-!
# Actions

An action is an operation that the API carries out in the background. An `Action` is a snapshot of
one: how far it has come, and in the end whether it succeeded.
-/

namespace CloudClient

/-- Where an action stands. -/
inductive ActionStatus where
  /-- it is not finished yet -/
  | running
  /-- it succeeded -/
  | success
  /-- it failed -/
  | error
  deriving DecidableEq

namespace ActionStatus

/-- The statuses. -/
def all : List ActionStatus := [running, success, error]

/-- The status as it travels. -/
def text : ActionStatus → String
  | running => "running"
  | success => "success"
  | error => "error"

/-- The status that a text is. -/
def ofText? (s : String) : Option ActionStatus := all.find? (·.text == s)

/-- A written status is read back. -/
theorem ofText?_text (s : ActionStatus) : ofText? s.text = some s := by cases s <;> decide

end ActionStatus

/-- Why an action failed, as the API tells it. -/
structure ActionFailure where
  /-- the code -/
  code : ErrorCode
  /-- the message -/
  message : String
  deriving DecidableEq

/-- A resource that an action works on. -/
structure ActionResource where
  /-- the id of the resource -/
  id : Int
  /-- the type of the resource -/
  kind : String
  deriving DecidableEq

/-- A snapshot of an action. -/
structure Action where
  /-- the id of the action -/
  id : Int
  /-- where the action stands -/
  status : ActionStatus
  /-- what the action does -/
  command : String
  /-- how far it has come, in percent -/
  progress : UInt32
  /-- when it was started -/
  started : Time.Timestamp
  /-- when it was finished -/
  finished : Option Time.Timestamp
  /-- why it failed -/
  failure : Option ActionFailure
  /-- the resources it works on -/
  resources : List ActionResource
  deriving DecidableEq

namespace Action

/-- Is the action not finished yet? -/
def isRunning (a : Action) : Bool := a.status == .running

/-- Has the action succeeded or failed? -/
def isFinished (a : Action) : Bool := !a.isRunning

theorem isFinished_iff {a : Action} : a.isFinished ↔ ¬ a.isRunning := by
  rw [isFinished, Bool.not_eq_true', Bool.not_eq_true]

/-- The failure that is assumed when an action failed without saying why. -/
def unknownFailure : ActionFailure := ⟨.actionFailed, "action failed"⟩

/-- The error of a failed action. -/
def error? (a : Action) : Option ActionError :=
  match a.status with
  | .error =>
    let failure := a.failure.getD unknownFailure
    some ⟨failure.code, failure.message, some a.id⟩
  | _ => none

/-- An action has an error exactly if it failed. -/
theorem error?_isSome (a : Action) : a.error?.isSome = (a.status == .error) := by
  cases h : a.status <;> simp [error?, h]

/-- A finished action that has not failed has succeeded. -/
theorem status_eq_success {a : Action} (h : a.isFinished) (hne : a.status ≠ .error) :
    a.status = .success := by
  cases hstatus : a.status with
  | running => simp [isFinished, isRunning, hstatus] at h
  | success => rfl
  | error => exact absurd hstatus hne

end Action

end CloudClient
