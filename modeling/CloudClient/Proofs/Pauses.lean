import CloudClient.Session

/-!
# Pauses in a lifetime

A wait takes its whole time if the lifetime goes on after it, and otherwise the lifetime ends it. In
the second case the session shows it: at its moment the lifetime has ended, in the way that the
error names. So a session in which the lifetime has *not* ended cannot come from a pause that
failed.
-/

namespace CloudClient

namespace Lifetime

/-- At its end a lifetime has ended in this way. -/
theorem ending?_of_end? {l : Lifetime} {moment : Moment} {e : Ending}
    (h : l.end? = some (moment, e)) : l.ending? moment = some e := by
  obtain ⟨_ | c, _ | d⟩ := l
  · simp [end?] at h
  · obtain ⟨rfl, rfl⟩ : d = moment ∧ .deadlineExceeded = e := by simpa [end?] using h
    simp [ending?]
  · obtain ⟨rfl, rfl⟩ : c = moment ∧ .canceled = e := by simpa [end?] using h
    simp [ending?]
  · by_cases hcd : c ≤ d
    · obtain ⟨rfl, rfl⟩ : c = moment ∧ .canceled = e := by simpa [end?, hcd] using h
      simp [ending?]
    · obtain ⟨rfl, rfl⟩ : d = moment ∧ .deadlineExceeded = e := by simpa [end?, hcd] using h
      simp [ending?, hcd]

/-- Before its end a lifetime has not ended. -/
theorem ending?_eq_none_of_lt {l : Lifetime} {now moment : Moment} {e : Ending}
    (h : l.end? = some (moment, e)) (hlt : now < moment) : l.ending? now = none := by
  rcases he : l.ending? now with _ | e'
  · rfl
  · -- an end that has come is not later than now
    obtain ⟨_ | c, _ | d⟩ := l <;> simp [ending?, end?] at h he <;> grind

theorem ending?_eq_none_iff {l : Lifetime} {now : Moment} :
    l.ending? now = none ↔ (∀ c ∈ l.canceled, now < c) ∧ ∀ d ∈ l.deadline, now < d := by
  obtain ⟨_ | c, _ | d⟩ := l <;> simp [ending?]; grind

/-- What has not ended now had not ended before. -/
theorem ending?_eq_none_of_le {l : Lifetime} {now moment : Moment} (h : l.ending? moment = none)
    (hle : now ≤ moment) : l.ending? now = none := by
  obtain ⟨hcanceled, hdeadline⟩ := ending?_eq_none_iff.1 h
  exact ending?_eq_none_iff.2 ⟨fun c hc => Nat.lt_of_le_of_lt hle (hcanceled c hc),
    fun d hd => Nat.lt_of_le_of_lt hle (hdeadline d hd)⟩

/-- Only the lifetime without an end never ends. -/
theorem eq_unbounded_of_end? {l : Lifetime} (h : l.end? = none) : l = unbounded := by
  obtain ⟨_ | c, _ | d⟩ := l
  · rfl
  · cases h
  · cases h
  · simp only [end?] at h
    split at h <;> cases h

/-- **Inversion for a wait**: the lifetime goes on after it, or ends it. -/
theorem wait_cases (l : Lifetime) (now : Moment) (millis : Nat) :
    (l.ending? (now + millis) = none ∧ l.wait now millis = (now + millis, none)) ∨
      (l.ending? (now + millis) ≠ none ∧
        ∃ moment e, l.wait now millis = (moment, some e) ∧ l.ending? moment = some e) := by
  rw [wait]
  rcases hnow : l.ending? now with _ | e
  · rcases hend : l.end? with _ | ⟨moment, e⟩
    · rw [eq_unbounded_of_end? hend]
      exact .inl ⟨rfl, rfl⟩
    · dsimp only
      by_cases hle : moment ≤ now + millis
      · rw [if_pos hle]
        refine .inr ⟨fun hnone => ?_, moment, e, rfl, ending?_of_end? hend⟩
        have hmoment := ending?_eq_none_of_le hnone hle
        rw [ending?_of_end? hend] at hmoment
        cases hmoment
      · rw [if_neg hle]
        exact .inl ⟨ending?_eq_none_of_lt hend (Nat.lt_of_not_le hle), rfl⟩
  · refine .inr ⟨fun hnone => ?_, now, e, rfl, hnow⟩
    rw [ending?_eq_none_of_le hnone (Nat.le_add_right now millis)] at hnow
    cases hnow

end Lifetime

namespace Session

/-- The session after so many milliseconds in which nothing was done. -/
def elapsed (millis : Nat) (s : Session) : Session := { s with now := s.now + millis }

/-- The same in a session. -/
theorem wait_cases (l : Lifetime) (millis : Nat) (s : Session) :
    (l.ending? (s.now + millis) = none ∧ wait l millis s = (.done (), s.elapsed millis)) ∨
      (l.ending? (s.now + millis) ≠ none ∧ ∃ moment e, s.now ≤ moment ∧
        l.ending? moment = some e ∧
          wait l millis s = (.failed (.ended e), { s with now := moment })) := by
  have hle := l.le_wait s.now millis
  rw [wait]
  rcases l.wait_cases s.now millis with ⟨hlive, h⟩ | ⟨hend, moment, e, h, he⟩ <;> rw [h] at hle ⊢
  · exact .inl ⟨hlive, rfl⟩
  · exact .inr ⟨hend, moment, e, hle, he, rfl⟩

/-- A pause is a wait. -/
theorem exists_wait_eq_pause (l : Lifetime) (b : Backoff) (attempt : Nat) (s : Session) :
    ∃ millis, pause l b attempt s = wait l millis s := ⟨_, rfl⟩

/-- The session after a whole pause. -/
def paused (b : Backoff) (attempt : Nat) (s : Session) : Session :=
  s.elapsed (b.delay s.surroundings.draw attempt).millis

/-- **Inversion for a pause**: it takes its whole time, or the lifetime has ended when it is
over. -/
theorem pause_inv (l : Lifetime) (b : Backoff) (attempt : Nat) (s : Session) :
    pause l b attempt s = (.done (), s.paused b attempt) ∨
      ∃ e s', pause l b attempt s = (.failed (.ended e), s') ∧ l.ending? s'.now = some e := by
  have hp : pause l b attempt s = wait l (b.delay s.surroundings.draw attempt).millis s := rfl
  rw [hp, paused]
  generalize (b.delay s.surroundings.draw attempt).millis = millis
  rcases s.wait_cases l millis with ⟨-, h⟩ | ⟨-, moment, e, -, he, h⟩
  · exact .inl h
  · exact .inr ⟨e, _, h, he⟩

/-- A pause that ends well takes its whole time. -/
theorem eq_paused_of_pause_done {l : Lifetime} {b : Backoff} {attempt : Nat} {s s' : Session}
    (h : pause l b attempt s = (.done (), s')) : s' = s.paused b attempt := by
  rcases pause_inv l b attempt s with hp | ⟨e, s₁, hp, -⟩
  · rw [hp, Prod.mk.injEq] at h
    exact h.2.symm
  · rw [hp] at h
    cases h

/-- A pause after which the lifetime goes on takes its whole time. -/
theorem pause_of_live {l : Lifetime} {b : Backoff} {attempt : Nat} {s : Session}
    (h : l.ending? (pause l b attempt s).2.now = none) :
    pause l b attempt s = (.done (), s.paused b attempt) := by
  rcases pause_inv l b attempt s with hp | ⟨e, s₁, hp, he⟩
  · exact hp
  · rw [hp, he] at h
    cases h

end Session

end CloudClient
