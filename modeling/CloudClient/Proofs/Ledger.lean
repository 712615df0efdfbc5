import CloudClient.Task

/-!
# Ledgers

How often does a loop call the operations that it is given, in which order, and with what? The
outcome of the loop does not say. But an operation can be made to **enter** every call of it in a
ledger, which is carried along next to the state; then the loop itself is left as it is, and what it
has called can be read off the ledger.

* `Task.entered` — the operation that enters its calls, each with the states before and after it.
* `Task.Mirrors` — entering calls changes nothing else: neither how a task ends nor its state. It is
  closed under everything that loops are made of.
* `Ledger.Each` — what holds of every entry *together with the entries before it*. Entries are only
  ever added at the end, so `Ledger.each_concat` is all that a proof by steps needs.
-/

namespace CloudClient

/-! ## Entries -/

/-- A call of an operation. -/
structure Entry (σ κ : Type) where
  /-- what was called, and how the call ended -/
  call : κ
  /-- the state before the call -/
  before : σ
  /-- the state after the call -/
  after : σ

/-- Calls, the earliest one first. -/
abbrev Ledger (σ κ : Type) := List (Entry σ κ)

namespace Ledger

variable {σ κ : Type}

/-- The state that the calls have led to, from the state `start` on. -/
def last (start : σ) (es : Ledger σ κ) : σ := (es.getLast?.map (·.after)).getD start

@[simp] theorem last_nil (start : σ) : last start ([] : Ledger σ κ) = start := rfl

@[simp] theorem last_concat (start : σ) (es : Ledger σ κ) (e : Entry σ κ) :
    last start (es ++ [e]) = e.after := by
  simp [last]

/-- Every entry has the property, given the entries before it. -/
def Each (P : Ledger σ κ → Entry σ κ → Prop) (es : Ledger σ κ) : Prop :=
  ∀ (earlier : Ledger σ κ) (e : Entry σ κ), earlier ++ [e] <+: es → P earlier e

variable {P : Ledger σ κ → Entry σ κ → Prop}

theorem each_nil : Each P [] := by
  intro earlier e h
  simp at h

/-- An entry at the end has to have the property, given all the others. -/
theorem each_concat {es : Ledger σ κ} {e : Entry σ κ} :
    Each P (es ++ [e]) ↔ Each P es ∧ P es e := by
  constructor
  · intro h
    refine ⟨fun earlier e' he' => h earlier e' (he'.trans (List.prefix_append _ _)), ?_⟩
    exact h es e (List.prefix_refl _)
  · rintro ⟨h, he⟩ earlier e' he'
    rcases List.prefix_concat_iff.1 he' with heq | hpre
    · obtain ⟨rfl, rfl⟩ := List.append_singleton_inj.1 heq
      exact he
    · exact h earlier e' hpre

theorem Each.concat {es : Ledger σ κ} {e : Entry σ κ} (h : Each P es) (he : P es e) :
    Each P (es ++ [e]) := each_concat.2 ⟨h, he⟩

/-- The earlier entries have the property as well. -/
theorem Each.of_prefix {es es' : Ledger σ κ} (h : Each P es) (hpre : es' <+: es) : Each P es' :=
  fun earlier e he => h earlier e (he.trans hpre)

/-- Every entry of a ledger has entries before it. -/
theorem Each.of_mem {es : Ledger σ κ} {e : Entry σ κ} (h : Each P es) (he : e ∈ es) :
    ∃ earlier : Ledger σ κ, P earlier e := by
  obtain ⟨earlier, later, rfl⟩ := List.append_of_mem he
  exact ⟨earlier, h earlier e ⟨later, by simp⟩⟩

end Ledger

/-! ## How a task ends -/

/-- How a task ends, apart from the value. -/
def Outcome.ended {α : Type} : Outcome α → Outcome Unit
  | .done _ => .done ()
  | .failed e => .failed e
  | .unfinished => .unfinished

@[simp] theorem Outcome.ended_done {α : Type} (a : α) : (Outcome.done a).ended = .done () := rfl

@[simp] theorem Outcome.ended_failed {α : Type} (e : Error) :
    (Outcome.failed e : Outcome α).ended = .failed e := rfl

@[simp] theorem Outcome.ended_unfinished {α : Type} :
    (Outcome.unfinished : Outcome α).ended = .unfinished := rfl

@[simp] theorem Outcome.ended_unit (o : Outcome Unit) : o.ended = o := by cases o <;> rfl

theorem Outcome.ended_eq_failed {α : Type} {o : Outcome α} {e : Error} :
    o.ended = .failed e ↔ o = .failed e := by
  cases o <;> simp

theorem Outcome.ended_eq_unfinished {α : Type} {o : Outcome α} :
    o.ended = .unfinished ↔ o = .unfinished := by
  cases o <;> simp

/-- The value of a task that ends with one. -/
def Outcome.value? {α : Type} : Outcome α → Option α
  | .done a => some a
  | _ => none

theorem Outcome.value?_eq_some {α : Type} {o : Outcome α} {a : α} :
    o.value? = some a ↔ o = .done a := by
  cases o <;> simp [Outcome.value?]

namespace Task

variable {σ κ α β : Type}

/-- **Inversion for a sequence**: either the second task goes on with the value of the first one, or
the sequence ends as the first one does. -/
theorem bind_inv {t : Task σ α} {f : α → Task σ β} {s : σ} {r : Outcome β × σ}
    (h : (t >>= f) s = r) :
    (∃ a s', t s = (.done a, s') ∧ f a s' = r) ∨
      ∃ o, o.ended = (t s).1.ended ∧ o.ended ≠ .done () ∧ r = (o, (t s).2) := by
  rcases ht : t s with ⟨a | e | _, s'⟩
  · rw [bind_done ht] at h
    exact .inl ⟨a, s', rfl, h⟩
  · rw [bind_failed ht] at h
    exact .inr ⟨.failed e, by simp, by simp, h.symm⟩
  · rw [bind_unfinished ht] at h
    exact .inr ⟨.unfinished, by simp, by simp, h.symm⟩

/-! ## Entering calls -/

/-- The task that enters itself in a ledger. -/
def entered (call : Outcome α → κ) (t : Task σ α) : Task (σ × Ledger σ κ) α := fun (s, es) =>
  ((t s).1, (t s).2, es ++ [⟨call (t s).1, s, (t s).2⟩])

@[simp] theorem entered_apply (call : Outcome α → κ) (t : Task σ α) (s : σ) (es : Ledger σ κ) :
    t.entered call (s, es) = ((t s).1, (t s).2, es ++ [⟨call (t s).1, s, (t s).2⟩]) := rfl

/-- The task next to a ledger in which it enters nothing. -/
def unentered (t : Task σ α) : Task (σ × Ledger σ κ) α := fun (s, es) => ((t s).1, (t s).2, es)

/-- **Inversion for an entered call**: whatever happens, one entry is added; and the next task
starts from there, or nothing else is done. -/
theorem entered_bind_inv {call : Outcome α → κ} {t : Task σ α} {f : α → Task (σ × Ledger σ κ) β}
    {s : σ} {es : Ledger σ κ} {r : Outcome β × σ × Ledger σ κ}
    (h : (t.entered call >>= f) (s, es) = r) :
    (∃ a s', t s = (.done a, s') ∧ f a (s', es ++ [⟨call (.done a), s, s'⟩]) = r) ∨
      ∃ o, o.ended = (t s).1.ended ∧ o.ended ≠ .done () ∧
        r = (o, (t s).2, es ++ [⟨call (t s).1, s, (t s).2⟩]) := by
  rcases bind_inv h with ⟨a, s', ht, hf⟩ | ⟨o, ho, hne, hr⟩
  · rw [entered_apply, Prod.mk.injEq] at ht
    obtain ⟨ha, rfl⟩ := ht
    rw [ha] at hf
    exact .inl ⟨a, (t s).2, Prod.ext ha rfl, hf⟩
  · exact .inr ⟨o, ho, hne, hr⟩

/-- The task with a ledger ends as the other one does, in the same state. -/
def Mirrors (t' : Task (σ × Ledger σ κ) α) (t : Task σ α) : Prop :=
  ∀ s es, (t' (s, es)).1 = (t s).1 ∧ (t' (s, es)).2.1 = (t s).2

namespace Mirrors

theorem pure (a : α) : Mirrors (Pure.pure a : Task (σ × Ledger σ κ) α) (Pure.pure a) :=
  fun _ _ => ⟨rfl, rfl⟩

theorem fail (e : Error) : Mirrors (Task.fail e : Task (σ × Ledger σ κ) α) (Task.fail e) :=
  fun _ _ => ⟨rfl, rfl⟩

theorem giveUp : Mirrors (Task.giveUp : Task (σ × Ledger σ κ) α) Task.giveUp :=
  fun _ _ => ⟨rfl, rfl⟩

theorem entered (call : Outcome α → κ) (t : Task σ α) : Mirrors (t.entered call) t :=
  fun _ _ => ⟨rfl, rfl⟩

theorem unentered (t : Task σ α) : Mirrors (t.unentered : Task (σ × Ledger σ κ) α) t :=
  fun _ _ => ⟨rfl, rfl⟩

theorem bind {t' : Task (σ × Ledger σ κ) α} {t : Task σ α} {f' : α → Task (σ × Ledger σ κ) β}
    {f : α → Task σ β} (ht : Mirrors t' t) (hf : ∀ a, Mirrors (f' a) (f a)) :
    Mirrors (t' >>= f') (t >>= f) := by
  intro s es
  obtain ⟨ho, hs⟩ := ht s es
  rcases h' : t' (s, es) with ⟨o, s', es'⟩
  rcases h : t s with ⟨o₁, s₁⟩
  rw [h', h] at ho hs
  obtain rfl : o = o₁ := ho
  obtain rfl : s' = s₁ := hs
  cases o with
  | done a => rw [bind_done h', bind_done h]; exact hf a s' es'
  | failed e => rw [bind_failed h', bind_failed h]; exact ⟨rfl, rfl⟩
  | unfinished => rw [bind_unfinished h', bind_unfinished h]; exact ⟨rfl, rfl⟩

/-- A mirrored task whose outcome is kept as a value is mirrored. -/
theorem attempt {t' : Task (σ × Ledger σ κ) α} {t : Task σ α} (ht : Mirrors t' t) :
    Mirrors t'.attempt t.attempt := by
  intro s es
  obtain ⟨ho, hs⟩ := ht s es
  rcases h' : t' (s, es) with ⟨o, s', es'⟩
  rcases h : t s with ⟨o₁, s₁⟩
  rw [h', h] at ho hs
  obtain rfl : o = o₁ := ho
  obtain rfl : s' = s₁ := hs
  cases o <;> simp [Task.attempt, h', h]

end Mirrors

end Task

end CloudClient
