import CloudClient.Proofs.Completion
import CloudClient.Proofs.Loopback

/-!
# Waits of a client

A client waits as `Polling.poll` does, so a wait of a client has a ledger as well. What ends its
pauses early is nothing but the end of its lifetime, and what it reports are snapshots.
-/

namespace CloudClient

variable {τ : Type}

/-- Does the function that is given the snapshots never end a wait? -/
def NeverFails (report : τ → Action → Task Session τ) : Prop :=
  ∀ kept a s, ∃ kept' s', report kept a s = (.done kept', s')

/-- A report to a function that never fails does not fail. -/
theorem NeverFails.ended {report : τ → Action → Task Session τ} (h : NeverFails report) (kept : τ)
    (event : PollEvent) (s : Session) :
    (Reporter.ofUpdates report kept event s).1.ended = .done () := by
  cases event with
  | pollDone => rfl
  | update a =>
    obtain ⟨kept', s', hr⟩ := h kept a s
    rw [Reporter.ofUpdates, hr, Outcome.ended_done]

namespace Client

variable (c : Client) (rounds : Nat) (l : Lifetime) (report : τ → Action → Task Session τ)
  (kept : τ) (actions : List Action) (s : Session)

/-- The calls of a wait. -/
def waitLedger : Ledger Session PollCall :=
  (c.polling rounds l).ledger rounds (.ofUpdates report) kept actions s

/-- How a wait of a client ends. -/
theorem waitReporting_ledger :
    (c.polling rounds l).EndOfWait (.ofUpdates report) actions s rounds
      (c.waitReporting rounds l report kept actions s).1
      (c.waitLedger rounds l report kept actions s)
      (c.waitReporting rounds l report kept actions s).2 :=
  Polling.poll_ledger _ _ _ _ _ _

/-- **No call ends a wait in a live lifetime**, if nothing else goes wrong. -/
theorem waitReporting_not_endsWith (hreport : NeverFails report)
    (hlive : l.ending? (c.waitReporting rounds l report kept actions s).2.now = none)
    {answers : Nat → List Action}
    (hb : (c.waitLedger rounds l report kept actions s).Brings answers) :
    ¬ (c.waitLedger rounds l report kept actions s).EndsWith
      (c.waitReporting rounds l report kept actions s).1.ended := by
  refine (c.waitReporting_ledger rounds l report kept actions s).not_endsWith hb hreport.ended ?_
  intro number s₀ hs
  rw [← hs] at hlive
  exact congrArg Prod.fst (Session.pause_of_live hlive)

/-- The error of a failed action ends a wait that stops at failures. -/
theorem status_ne_error_of_stopAtFailure {u : Action} {kept : Unit} {s : Session}
    (h : (Reporter.ofUpdates stopAtFailure kept (.update u) s).1.ended = .done ()) :
    u.status ≠ .error := by
  intro hstatus
  have herror : u.error?.isSome := by
    rw [Action.error?_isSome, hstatus]
    rfl
  obtain ⟨e, he⟩ := Option.isSome_iff_exists.1 herror
  rw [Reporter.ofUpdates, stopAtFailure, he] at h
  cases h

/-- **A wait that stops at failures is over only without any**: every snapshot that was reported is
that of an action that has not failed. -/
theorem status_ne_error_of_waitFor (hdone : (c.waitFor rounds l actions s).1 = .done ()) :
    (∀ a ∈ actions, a.status = .success ∨
      ∃ us ∈ (c.waitLedger rounds l stopAtFailure () actions s).answers,
        ∃ u ∈ us, u.id = a.id ∧ u.status = .success) ∧
    (∀ a ∈ actions, a.status ≠ .error) ∧
    ∀ us ∈ (c.waitLedger rounds l stopAtFailure () actions s).answers,
      ∀ u ∈ us, u.status ≠ .error := by
  have hends := c.waitReporting_ledger rounds l stopAtFailure () actions s
  rw [waitFor] at hdone
  rw [hdone] at hends
  cases hends with
  | ended _ ends => exact absurd (Outcome.ended_done _) ends.ne_done
  | finished _ resting _ =>
    have hok : ∀ u ∈ (c.waitLedger rounds l stopAtFailure () actions s).updates,
        u.status ≠ .error := by
      intro u hu
      obtain ⟨kept, s₀, h⟩ := resting.reported hu
      exact status_ne_error_of_stopAtFailure h
    rw [resting.updates_eq] at hok
    have hanswers : ∀ us ∈ (c.waitLedger rounds l stopAtFailure () actions s).answers,
        ∀ u ∈ us, u.status ≠ .error := by
      intro us hus u hu
      exact hok u (List.mem_append_right _ (List.mem_flatten.2 ⟨us, hus, hu⟩))
    have hactions : ∀ a ∈ actions, a.status ≠ .error := by
      intro a ha hstatus
      have hfin : a.isFinished := by simp [Action.isFinished, Action.isRunning, hstatus]
      exact hok a (List.mem_append_left _ (List.mem_filter.2 ⟨ha, hfin⟩)) hstatus
    refine ⟨?_, hactions, hanswers⟩
    intro a ha
    obtain ⟨u, -, hid, hfin, rfl | ⟨us, hus, hu⟩⟩ := resting.exists_update ha
    · exact .inl (Action.status_eq_success hfin (hactions u ha))
    · exact .inr ⟨us, hus, u, hu, hid, Action.status_eq_success hfin (hanswers us hus u hu)⟩

/-- **A wait is over exactly when all running actions have been seen as finished.** If so many polls
are allowed, it is over after `k` polls, where `k` is the least number of answers by which they all
have been; nothing is asked for if `k` is zero. By then every action was reported as finished. And a
wait that stops at failures is over only when every action has succeeded, and it has seen none that
failed. -/
theorem waitReporting_done_iff :
    (∀ (τ : Type) (report : τ → Action → Task Session τ) (kept : τ) (answers : Nat → List Action),
      NeverFails report →
      l.ending? (c.waitReporting rounds l report kept actions s).2.now = none →
      (c.waitLedger rounds l report kept actions s).Brings answers →
      (∀ k, ((∃ kept', (c.waitReporting rounds l report kept actions s).1 = .done kept') ∧
          (c.waitLedger rounds l report kept actions s).polls.length = k) ↔
        k ≤ rounds ∧ IsLeast {k | AllSeen actions answers k} k) ∧
      ((∃ kept', (c.waitReporting rounds l report kept actions s).1 = .done kept') →
        ∀ a ∈ actions, ∃ u ∈ (c.waitLedger rounds l report kept actions s).updates,
          u.id = a.id ∧ u.isFinished)) ∧
    ((c.waitFor rounds l actions s).1 = .done () →
      (∀ a ∈ actions, a.status = .success ∨
        ∃ us ∈ (c.waitLedger rounds l stopAtFailure () actions s).answers,
          ∃ u ∈ us, u.id = a.id ∧ u.status = .success) ∧
      (∀ a ∈ actions, a.status ≠ .error) ∧
      ∀ us ∈ (c.waitLedger rounds l stopAtFailure () actions s).answers,
        ∀ u ∈ us, u.status ≠ .error) := by
  refine ⟨?_, c.status_ne_error_of_waitFor rounds l actions s⟩
  intro τ report kept answers hreport hlive hb
  have hends := c.waitReporting_ledger rounds l report kept actions s
  have hends' := c.waitReporting_not_endsWith rounds l report kept actions s hreport hlive hb
  refine ⟨hends.done_iff hb hends', ?_⟩
  rintro ⟨kept', hdone⟩ a ha
  rw [hdone] at hends
  cases hends with
  | finished _ resting _ =>
    obtain ⟨u, hu, hid, hfin, -⟩ := resting.exists_update ha
    exact ⟨u, hu, hid, hfin⟩
  | ended _ ends => exact absurd (Outcome.ended_done _) ends.ne_done

end Client

namespace Loopback

/-- Actions to wait for: one of them twice, and one that has finished. -/
def tracked : List Action :=
  [snapshot 1 .running, snapshot 2 .running, snapshot 1 .running, snapshot 3 .success]

/-- A first answer that has one action twice and leaves out another, and a second one that has the
other one. -/
def uneven (j : Nat) : List Action :=
  if j = 0 then [snapshot 1 .success, snapshot 1 .success] else [snapshot 2 .success]

/-- The session with these answers. -/
def unevenSession : Session := session [listing (uneven 0), listing (uneven 1)]

/-- Counts snapshots. -/
def count (n : Nat) (_ : Action) : Task Session Nat := return n + 1

/-- The calls of a wait with these answers. -/
abbrev unevenCalls : Ledger Session PollCall :=
  client.waitLedger 2 .unbounded count 0 tracked unevenSession

/-- The wait is over after the second answer, and all three actions have succeeded. -/
theorem waitReporting_done_iff_uneven :
    (NeverFails count ∧ unevenCalls.Brings uneven ∧
      (∃ kept', (client.waitReporting 2 .unbounded count 0 tracked unevenSession).1 = .done kept') ∧
      unevenCalls.polls.length = 2 ∧
      ∀ a ∈ tracked, ∃ u ∈ unevenCalls.updates, u.id = a.id ∧ u.isFinished) ∧
    (client.waitFor 2 .unbounded tracked unevenSession).1 = .done () ∧
      ∀ a ∈ tracked, a.status = .success ∨
        ∃ us ∈ (client.waitLedger 2 .unbounded Client.stopAtFailure () tracked
          unevenSession).answers, ∃ u ∈ us, u.id = a.id ∧ u.status = .success := by
  obtain ⟨hreporting, hfor⟩ := client.waitReporting_done_iff 2 .unbounded tracked unevenSession
  have hcount : NeverFails count := fun n _ s => ⟨n + 1, s, rfl⟩
  have hb : unevenCalls.Brings uneven := by decide +kernel
  have hleast : IsLeast {k | AllSeen tracked uneven k} 2 := by
    refine ⟨by decide, ?_⟩
    intro k hk
    by_contra hlt
    obtain rfl | rfl : k = 0 ∨ k = 1 := by omega
    · exact absurd hk (by decide)
    · exact absurd hk (by decide)
  obtain ⟨hiff, hupdates⟩ := hreporting Nat count 0 uneven hcount rfl hb
  obtain ⟨hdone, hlen⟩ := (hiff 2).2 ⟨Nat.le_refl 2, hleast⟩
  have hwait : (client.waitFor 2 .unbounded tracked unevenSession).1 = .done () :=
    Outcome.value?_eq_some.1 (by decide +kernel)
  exact ⟨⟨hcount, hb, hdone, hlen, hupdates hdone⟩, hwait, (hfor hwait).1⟩

end Loopback

end CloudClient
