import CloudClient.Error.Basic

/-!
# Lifetimes

Every operation runs within a lifetime: it may be canceled, and it may have a deadline. Whatever
comes first ends the operation. `Lifetime.wait` is the rule by which every wait of the client obeys
the lifetime it runs in: it goes on until it is over or the lifetime ends, and at the same moment
the end of the lifetime counts.
-/

namespace CloudClient

/-- A moment, in milliseconds since the clock was started. -/
abbrev Moment := Nat

/-- How long an operation may go on. -/
structure Lifetime where
  /-- when it is canceled, if it ever is -/
  canceled : Option Moment
  /-- when its deadline is, if it has one -/
  deadline : Option Moment
  deriving DecidableEq

namespace Lifetime

/-- The lifetime without an end. -/
def unbounded : Lifetime := ⟨none, none⟩

/-- How the lifetime has ended by the moment `now`, if it has. -/
def ending? (l : Lifetime) (now : Moment) : Option Ending :=
  if l.canceled.any (· ≤ now) then some .canceled
  else if l.deadline.any (· ≤ now) then some .deadlineExceeded
  else none

/-- When and how the lifetime ends, if it does. -/
def end? (l : Lifetime) : Option (Moment × Ending) :=
  match l.canceled, l.deadline with
  | none, none => none
  | some c, none => some (c, .canceled)
  | none, some d => some (d, .deadlineExceeded)
  | some c, some d => if c ≤ d then some (c, .canceled) else some (d, .deadlineExceeded)

/-- When a wait from `now` on for `millis` is over, and how the lifetime has ended it if it
has. -/
def wait (l : Lifetime) (now : Moment) (millis : Nat) : Moment × Option Ending :=
  match l.ending? now with
  | some ending => (now, some ending)
  | none =>
    match l.end? with
    | none => (now + millis, none)
    | some (moment, ending) =>
      if moment ≤ now + millis then (moment, some ending) else (now + millis, none)

/-- Without an end a lifetime never ends. -/
@[simp] theorem ending?_unbounded (now : Moment) : unbounded.ending? now = none := rfl

/-- Without an end every wait takes its whole time. -/
@[simp] theorem wait_unbounded (now : Moment) (millis : Nat) :
    unbounded.wait now millis = (now + millis, none) := rfl

/-- A lifetime that has not ended by a moment ends after it, if it ends. -/
theorem lt_of_ending?_eq_none {l : Lifetime} {now moment : Moment} {e : Ending}
    (h : l.ending? now = none) (he : l.end? = some (moment, e)) : now < moment := by
  obtain ⟨canceled, deadline⟩ := l
  cases canceled <;> cases deadline <;> simp [ending?, end?] at h he <;> grind

/-- No wait is over before it starts. -/
theorem le_wait (l : Lifetime) (now : Moment) (millis : Nat) : now ≤ (l.wait now millis).1 := by
  rw [wait]
  split
  · exact Nat.le_refl _
  · rename_i h
    split
    · exact Nat.le_add_right _ _
    · rename_i moment ending he
      split
      · exact Nat.le_of_lt (lt_of_ending?_eq_none h he)
      · exact Nat.le_add_right _ _

end Lifetime

end CloudClient
