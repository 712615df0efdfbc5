import CloudClient.Error.Basic

/-!
# Tasks

A task is an operation that works on a state and ends with a value or an error. Tasks are plain
functions: the state may be a whole session with its clock and its network, or just the list of
answers that are still to come.

* `Outcome` tells the two ends apart, and a third one, which is no result at all: a loop that may go
  on forever is run with a bound on its rounds, and a task that meets the bound is `unfinished`; so
  is a task that breaks off. No task goes on after it.
* `Task` has the operations of a monad, with the equations that proofs use.
-/

namespace CloudClient

/-- How a task ends. -/
inductive Outcome (α : Type) where
  /-- with a value -/
  | done (value : α)
  /-- with an error -/
  | failed (error : Error)
  /-- not within the rounds it was given, or not at all -/
  | unfinished

/-- An operation on a state of type `σ` with values of type `α`. -/
def Task (σ α : Type) : Type := σ → Outcome α × σ

namespace Task

variable {σ α β γ : Type}

/-- Ends with a value at once. -/
protected def pure (a : α) : Task σ α := fun s => (.done a, s)

/-- Goes on with the value of a task, unless it ends otherwise. -/
protected def bind (t : Task σ α) (f : α → Task σ β) : Task σ β := fun s =>
  match t s with
  | (.done a, s') => f a s'
  | (.failed e, s') => (.failed e, s')
  | (.unfinished, s') => (.unfinished, s')

instance : Monad (Task σ) where
  pure := Task.pure
  bind := Task.bind

/-- Ends with an error at once. -/
def fail (e : Error) : Task σ α := fun s => (.failed e, s)

/-- Ends without a result. -/
def giveUp : Task σ α := fun s => (.unfinished, s)

/-- The state. -/
def state : Task σ σ := fun s => (.done s, s)

/-- Changes the state. -/
def update (f : σ → σ) : Task σ Unit := fun s => (.done (), f s)

/-- Ends with a value or an error that is known already. -/
def ofExcept : Except Error α → Task σ α
  | .ok a => pure a
  | .error e => fail e

/-- Ends with the value or the error of a task, as a value. -/
def attempt (t : Task σ α) : Task σ (Except Error α) := fun s =>
  match t s with
  | (.done a, s') => (.done (.ok a), s')
  | (.failed e, s') => (.done (.error e), s')
  | (.unfinished, s') => (.unfinished, s')

/-- Does a task for each element in order, up to the first one that does not end with a value. -/
def forEach (f : α → Task σ Unit) : List α → Task σ Unit
  | [] => pure ()
  | a :: rest => do
    f a
    forEach f rest

/-! ## Equations -/

@[simp] theorem pure_apply (a : α) (s : σ) : (pure a : Task σ α) s = (.done a, s) := rfl

theorem bind_apply (t : Task σ α) (f : α → Task σ β) (s : σ) :
    (t >>= f) s =
      match t s with
      | (.done a, s') => f a s'
      | (.failed e, s') => (.failed e, s')
      | (.unfinished, s') => (.unfinished, s') := rfl

/-- A task that ends with a value hands it and its state on. -/
theorem bind_done {t : Task σ α} {f : α → Task σ β} {s s' : σ} {a : α}
    (h : t s = (.done a, s')) : (t >>= f) s = f a s' := by
  simp [bind_apply, h]

/-- After an error nothing else is done. -/
theorem bind_failed {t : Task σ α} {f : α → Task σ β} {s s' : σ} {e : Error}
    (h : t s = (.failed e, s')) : (t >>= f) s = (.failed e, s') := by
  simp [bind_apply, h]

/-- Without a result nothing else is done. -/
theorem bind_unfinished {t : Task σ α} {f : α → Task σ β} {s s' : σ}
    (h : t s = (.unfinished, s')) : (t >>= f) s = (.unfinished, s') := by
  simp [bind_apply, h]

/-- A value is kept as a value. -/
theorem attempt_done {t : Task σ α} {s s' : σ} {a : α} (h : t s = (.done a, s')) :
    t.attempt s = (.done (.ok a), s') := by
  simp [attempt, h]

/-- An error is kept as a value. -/
theorem attempt_failed {t : Task σ α} {s s' : σ} {e : Error} (h : t s = (.failed e, s')) :
    t.attempt s = (.done (.error e), s') := by
  simp [attempt, h]

theorem attempt_ofExcept {t : Task σ α} {s s' : σ} {result : Except Error α}
    (h : t s = ofExcept result s') : t.attempt s = (.done result, s') := by
  cases result with
  | ok a => exact attempt_done h
  | error e => exact attempt_failed h

theorem attempt_unfinished {t : Task σ α} {s s' : σ} (h : t s = (.unfinished, s')) :
    t.attempt s = (.unfinished, s') := by
  simp [attempt, h]

@[simp] theorem fail_apply (e : Error) (s : σ) : (fail e : Task σ α) s = (.failed e, s) := rfl

@[simp] theorem state_apply (s : σ) : (state : Task σ σ) s = (.done s, s) := rfl

@[simp] theorem update_apply (f : σ → σ) (s : σ) : update f s = (.done (), f s) := rfl

protected theorem id_map (t : Task σ α) : id <$> t = t := by
  funext s
  change (match t s with
    | (.done a, s') => (.done a, s')
    | (.failed e, s') => (.failed e, s')
    | (.unfinished, s') => (.unfinished, s')) = t s
  rcases t s with ⟨_ | _ | _, _⟩ <;> rfl

protected theorem bind_assoc (t : Task σ α) (f : α → Task σ β) (g : β → Task σ γ) :
    t >>= f >>= g = t >>= fun a => f a >>= g := by
  funext s
  simp only [bind_apply]
  rcases t s with ⟨_ | _ | _, _⟩ <;> rfl

instance : LawfulMonad (Task σ) :=
  LawfulMonad.mk' (Task σ) Task.id_map (fun _ _ => rfl) Task.bind_assoc

end Task

end CloudClient
