import CloudClient.Proofs.Overflow

/-!
# The results of a watch

A watch tells its caller of every failure, and then how it has ended. All of this comes through one
channel, with room for one failure of each action; there are no more, so nothing is ever dropped.

But the end is not always told. The wait of a watch ends when no action runs any more, when a
request fails, when an answer has too many snapshots or too few, or when its lifetime is over, and
each time it has a result. It has none in two cases only: the rounds that it was given have run out,
or it has broken off because the sum of the percentages overflows.

* `Ledger.Overflows`, `Ledger.OutOfRounds` — the two cases, told from the calls of the wait.
* `Client.result?_eq_none_iff` — there are no others.
* `Client.watchOverallProgress_results` — what the caller is told.
-/

namespace CloudClient

open OverallProgress (reportedSum)
open Polling (idSet)

namespace Ledger

variable {σ : Type}

/-- The last call is the end of a batch after which the percentages add up to `2 ^ 32` or more. -/
def Overflows (es : Ledger σ PollCall) : Prop :=
  ∃ (earlier : Ledger σ PollCall) (e : Entry σ PollCall) (ended : Outcome Unit),
    es = earlier ++ [e] ∧ e.call = .report .pollDone ended ∧ 2 ^ 32 ≤ reportedSum earlier.updates

/-- The rounds have run out: all polls were made that may be made, and there are ids left; or the
last answer has had too many pages. -/
def OutOfRounds (actions : List Action) (rounds : Nat) (es : Ledger σ PollCall) : Prop :=
  (es.GoesOn ∧ es.polls.length = rounds ∧ (es.remaining actions).Nonempty) ∨
    ∃ (earlier : Ledger σ PollCall) (e : Entry σ PollCall) (ids : List Int),
      es = earlier ++ [e] ∧ e.call = .fetch ids .unfinished

end Ledger

namespace Client

variable {c : Client} {rounds : Nat} {l : Lifetime} {actions : List Action} {s : Session}

/-! ## Waits without a result -/

/-- A pause comes to an end. -/
theorem ended_pause_ne_unfinished (l : Lifetime) (b : Backoff) (attempt : Nat) (s : Session) :
    (Session.pause l b attempt s).1 ≠ .unfinished := by
  obtain ⟨millis, hwait⟩ := Session.exists_wait_eq_pause l b attempt s
  rw [hwait]
  rcases s.wait_cases l millis with ⟨-, h⟩ | ⟨-, moment, e, -, -, h⟩ <;> rw [h] <;> exact nofun

/-- A report of a snapshot goes well, so only the end of a batch ends the wait. -/
theorem pollDone_of_unfinished {earlier : Ledger Session PollCall} {e : Entry Session PollCall}
    {event : PollEvent} (hpre : earlier ++ [e] <+: c.watchLedger rounds l actions s)
    (hc : e.call = .report event .unfinished) : event = .pollDone := by
  cases event with
  | pollDone => rfl
  | update a =>
    obtain ⟨hended, -⟩ :=
      ((c.watchLedger_batched rounds l actions s).reports earlier e hpre).report_eq _ _ hc
    rw [reportOverall_apply] at hended
    cases hended

/-- The last call of a wait that ends without a result is the end of a batch whose sum overflows, or
an answer with too many pages. -/
theorem overflows_or_outOfRounds (hends : (c.watchLedger rounds l actions s).EndsWith .unfinished) :
    (c.watchLedger rounds l actions s).Overflows ∨
      (c.watchLedger rounds l actions s).OutOfRounds actions rounds := by
  obtain ⟨earlier, e, hledger, hends⟩ := hends
  have hpre : earlier ++ [e] <+: c.watchLedger rounds l actions s := hledger ▸ List.prefix_rfl
  obtain ⟨-, -, hfits⟩ := (c.overallWait_ledger rounds l actions s).traced.fits earlier e hpre
  cases hc : e.call with
  | pause number ended =>
    rw [hc] at hends hfits
    obtain ⟨rfl, -⟩ := hends
    exact absurd (congrArg Prod.fst hfits.1) (ended_pause_ne_unfinished _ _ _ _)
  | fetch ids answer =>
    rw [hc] at hends
    rcases hends with ⟨hanswer, -⟩ | ⟨us, -, -, hfailed⟩
    · obtain rfl := Outcome.ended_eq_unfinished.1 hanswer
      exact .inr (.inr ⟨earlier, e, ids, hledger, hc⟩)
    · cases hfailed
  | report event ended =>
    rw [hc] at hends
    obtain ⟨rfl, -⟩ := hends
    obtain rfl := pollDone_of_unfinished hpre hc
    refine .inl ⟨earlier, e, _, hledger, hc, not_lt.1 fun hlt => ?_⟩
    have hended := ended_of_reportedSum hpre hc
    rw [if_pos hlt] at hended
    cases hended

theorem result?_of_overflows (h : (c.watchLedger rounds l actions s).Overflows) :
    (c.overallWait rounds l actions s).1.result? = none := by
  obtain ⟨earlier, e, ended, hledger, hc, hover⟩ := h
  have hpre : earlier ++ [e] <+: c.watchLedger rounds l actions s := hledger ▸ List.prefix_rfl
  rw [(breaksOff_of_overflow hpre hc hover).2]
  rfl

theorem result?_of_outOfRounds (h : (c.watchLedger rounds l actions s).OutOfRounds actions rounds) :
    (c.overallWait rounds l actions s).1.result? = none := by
  have hwait := c.overallWait_ledger rounds l actions s
  rcases h with ⟨hgo, -, hleft⟩ | ⟨earlier, e, ids, hledger, hc⟩
  · -- no call has ended the wait, and it is not over
    generalize (c.overallWait rounds l actions s).1 = o at hwait ⊢
    cases hwait with
    | finished kept resting _ => exact absurd resting.remaining_eq_empty hleft.ne_empty
    | outOfPolls => rfl
    | ended _ ends =>
      obtain ⟨earlier, e, hledger, hends⟩ := ends
      exact absurd (hgo e (by rw [hledger]; simp)) hends.not_goesOn
  · have hpre : earlier ++ [e] <+: c.watchLedger rounds l actions s := hledger ▸ List.prefix_rfl
    have hends := hwait.ends_of_not_goesOn hpre (by rw [hc]; rintro ⟨us, ⟨⟩, -⟩)
    rw [hc] at hends
    rcases hends with ⟨hanswer, -⟩ | ⟨us, ⟨⟩, -⟩
    rw [Outcome.ended_eq_unfinished.1 hanswer.symm]
    rfl

/-- **The two ways in which a watch has no result.** -/
theorem result?_eq_none_iff :
    (c.overallWait rounds l actions s).1.result? = none ↔
      (c.watchLedger rounds l actions s).Overflows ∨
        (c.watchLedger rounds l actions s).OutOfRounds actions rounds := by
  refine ⟨fun hnone => ?_, fun h => h.elim result?_of_overflows result?_of_outOfRounds⟩
  have hwait := c.overallWait_ledger rounds l actions s
  generalize (c.overallWait rounds l actions s).1 = o at hwait hnone
  cases hwait with
  | finished => cases hnone
  | outOfPolls resting left =>
    exact .inr (.inl ⟨resting.goesOn, resting.number_eq, resting.remaining_nonempty left⟩)
  | ended _ ends =>
    cases o with
    | done p => cases hnone
    | failed e => cases hnone
    | unfinished => exact overflows_or_outOfRounds ends

/-- **Percentages of a hundred at most do not overflow**, unless there are very many actions. -/
theorem not_overflows (hf : (c.watchLedger rounds l actions s).Faithful)
    (hle : ∀ us ∈ (c.watchLedger rounds l actions s).accepted, ∀ u ∈ us, u.isRunning →
      u.progress ≤ 100) (hlen : actions.length ≤ 42949672) :
    ¬ (c.watchLedger rounds l actions s).Overflows := by
  rintro ⟨earlier, e, ended, hledger, hc, hover⟩
  have hpre : earlier ++ [e] <+: c.watchLedger rounds l actions s := hledger ▸ List.prefix_rfl
  have hids := mem_idSet_of_pollDone hf hpre hc
  have hpercents := progress_le_of_pollDone hle hpre hc
  rw [← Ledger.updates_eq] at hids hpercents
  have hsub : idSet earlier.updates ⊆ idSet actions := by
    intro id hid
    obtain ⟨u, hu, rfl⟩ := Polling.mem_idSet.1 hid
    exact hids u hu
  have hcard := (Finset.card_le_card hsub).trans (OverallProgress.card_idSet_le actions)
  exact hover.not_gt (OverallProgress.reportedSum_lt hpercents (hcard.trans hlen))

/-! ## What the caller is told -/

variable (c rounds l actions s) in
/-- **What a watch tells through the channel of results.** If the answers are faithful, the results
are the failures of all snapshots that were observed, in this order, those of the actions that were
finished at first before the others; and then, once the watch is over, how its wait has ended, which
is never the failure of an action. The channel delivers all of them, however the caller receives,
and the watch never has to wait for the caller. The wait has a result unless the percentages
overflow at the end of a batch, or the rounds run out; percentages of a hundred at most do not
overflow. -/
theorem watchOverallProgress_results (hf : (c.watchLedger rounds l actions s).Faithful) :
    (c.watchLedger rounds l actions s).updates =
      actions.filter (·.isFinished) ++ (c.watchLedger rounds l actions s).accepted.flatten ∧
    s.readBetween Event.result? (c.watchOverallProgress rounds l actions s).2 =
      ((c.watchLedger rounds l actions s).updates.filterMap (·.error?)).map
          (fun e => .error (.action e)) ++
        (c.overallWait rounds l actions s).1.result?.toList ∧
    ((c.watchOverallProgress rounds l actions s).1 = .done () ↔
      (c.overallWait rounds l actions s).1.result?.isSome) ∧
    ((c.overallWait rounds l actions s).1.result? = none ↔
      (c.watchLedger rounds l actions s).Overflows ∨
        (c.watchLedger rounds l actions s).OutOfRounds actions rounds) ∧
    ((∀ us ∈ (c.watchLedger rounds l actions s).accepted, ∀ u ∈ us, u.isRunning →
      u.progress ≤ 100) → actions.length ≤ 42949672 →
        ¬ (c.watchLedger rounds l actions s).Overflows) ∧
    (∀ e, (c.overallWait rounds l actions s).1.result? ≠ some (.error (.action e))) ∧
    Channel.DeliversAll (Delivery.resultsRoom actions.length)
      (s.readBetween Event.result? (c.watchOverallProgress rounds l actions s).2) := by
  refine ⟨(c.watchLedger_batched rounds l actions s).updates_eq,
    c.readBetween_result? rounds l actions s, ?_, result?_eq_none_iff, not_overflows hf, ?_,
    Channel.deliversAll_of_length_le ?_⟩
  · rw [watchOverallProgress_apply]
    cases (c.overallWait rounds l actions s).1.result? <;> simp
  · intro e he
    have hfailed : (c.overallWait rounds l actions s).1 = .failed (.action e) := by
      rcases ho : (c.overallWait rounds l actions s).1 with p | e' | _ <;> rw [ho] at he <;>
        cases he
      rfl
    rcases c.failsOnly_overallWait rounds l actions s _ hfailed with ⟨h⟩
    cases h
  · rw [readBetween_result?, List.length_append, List.length_map]
    refine Nat.add_le_add (length_failures_le hf) ?_
    cases (c.overallWait rounds l actions s).1.result? <;> simp

end Client

namespace Loopback

/-- Actions to watch; the first one has failed already. -/
def watched : List Action := [snapshot 1 .error, snapshot 2 .running, snapshot 3 .running]

/-- A session in which the server reports that the second one has failed, and then that the third
one has succeeded. -/
def watchedSession : Session :=
  session [listing [snapshot 2 .error, snapshot 3 .running], listing [snapshot 3 .success]]

/-- Two failures are told of, and then that the watch is over. -/
theorem watchOverallProgress_results_watched :
    watchedSession.readBetween Event.result?
        (client.watchOverallProgress 2 .unbounded watched watchedSession).2 =
      [.error (.action (failure 1)), .error (.action (failure 2)), .ok ()] ∧
    Channel.DeliversAll 4 (watchedSession.readBetween Event.result?
      (client.watchOverallProgress 2 .unbounded watched watchedSession).2) := by
  obtain ⟨-, hresults, -, -, -, -, hall⟩ :=
    client.watchOverallProgress_results 2 .unbounded watched watchedSession (by decide +kernel)
  have hfailures : (client.watchLedger 2 .unbounded watched watchedSession).updates.filterMap
      (·.error?) = [failure 1, failure 2] := by
    decide +kernel
  have hdone : (client.overallWait 2 .unbounded watched watchedSession).1.value?.isSome := by
    decide +kernel
  obtain ⟨p, hp⟩ := Option.isSome_iff_exists.1 hdone
  rw [hfailures, Outcome.value?_eq_some.1 hp] at hresults
  exact ⟨hresults, hall⟩

/-- A session in which the second of two actions reports so many percent that they overflow together
with the hundred of the first one, and then succeeds. -/
def bigSession : Session :=
  session [listing [{ snapshot 2 .running with progress := 4294967196 }],
    listing [snapshot 2 .success]]

/-- Two actions to watch; the first one has failed already. -/
def failedAndRunning : List Action := [snapshot 1 .error, snapshot 2 .running]

/-- The answers are faithful, and a wait that reports to nobody ends well. But a watch tells of a
failure, and never of its end. -/
theorem not_results_big :
    (client.watchLedger 2 .unbounded failedAndRunning bigSession).Faithful ∧
    (client.waitReporting 2 .unbounded (fun _ _ => return ()) () failedAndRunning bigSession).1 =
      .done () ∧
    bigSession.readBetween Event.result?
        (client.watchOverallProgress 2 .unbounded failedAndRunning bigSession).2 =
      [.error (.action (failure 1))] := by
  have hfaithful : (client.watchLedger 2 .unbounded failedAndRunning bigSession).Faithful := by
    decide +kernel
  have hdone : (client.waitReporting 2 .unbounded (fun _ _ => return ()) () failedAndRunning
      bigSession).1.value? = some () := by
    decide +kernel
  have hfailures : (client.watchLedger 2 .unbounded failedAndRunning bigSession).updates.filterMap
      (·.error?) = [failure 1] := by
    decide +kernel
  have hnone : (client.overallWait 2 .unbounded failedAndRunning bigSession).1.result?.isNone := by
    decide +kernel
  have hresults := client.readBetween_result? 2 .unbounded failedAndRunning bigSession
  rw [hfailures, Option.isNone_iff_eq_none.1 hnone] at hresults
  exact ⟨hfaithful, Outcome.value?_eq_some.1 hdone, hresults⟩

end Loopback

end CloudClient
