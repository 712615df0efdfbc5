import CloudClient.Proofs.Averages

/-!
# When the sum of a watch overflows

A watch adds up percentages with numbers of 32 bits. A percentage is any number of 32 bits, and
nothing but its name says that it is no more than a hundred. So the sum may overflow, and then the
watch breaks off: it does nothing more, and its caller is never told how it has ended.

* `OverallProgress.reportedSum` — the sum of the last percentages of all actions that were reported.
  It is all that decides whether an addition overflows, in whatever order the percentages are added
  (`OverallProgress.checkedSum?_after`).
* `Client.breaksOff_of_overflow` — what becomes of a watch whose sum overflows.
* `Client.watchOverallProgress_sum` — when it does, and what the caller is told.
-/

namespace CloudClient

open Polling (idSet)

/-! ## The sum of a watch -/

namespace OverallProgress

/-- The sum of the last percentages of all actions that were reported. -/
def reportedSum (us : List Action) : Nat := ∑ id ∈ idSet us, lastPercent us id

variable {total : UInt32} {events : List PollEvent} {us : List Action}

/-- Up to so many actions may report a hundred percent each. -/
theorem reportedSum_lt (hle : ∀ u ∈ us, u.isRunning → u.progress ≤ 100)
    (hcard : (idSet us).card ≤ 42949672) : reportedSum us < 2 ^ 32 := by
  have hsum : reportedSum us ≤ (idSet us).card * 100 := sum_lastPercent_le hle _
  omega

theorem covers_reported (total : UInt32) (events : List PollEvent) :
    (after total events).Covers (idSet (events.filterMap PollEvent.update?)) :=
  covers_after total fun u hu => Polling.mem_idSet.2 ⟨u, hu, rfl⟩

theorem sum_percentOf_reported (total : UInt32) (events : List PollEvent) :
    ∑ id ∈ idSet (events.filterMap PollEvent.update?), (after total events).percentOf id =
      reportedSum (events.filterMap PollEvent.update?) :=
  sum_percentOf_after total events _

/-- **Additions give the sum**, in whatever order the percentages are added, or one of them
overflows. -/
theorem checkedSum?_after {xs : List UInt32}
    (hxs : xs.Perm ((after total events).byAction.map (·.2))) :
    checkedSum? xs =
      if reportedSum (events.filterMap PollEvent.update?) < 2 ^ 32 then
        some (UInt32.ofNat (reportedSum (events.filterMap PollEvent.update?)))
      else none := by
  have hsum : (xs.map UInt32.toNat).sum = reportedSum (events.filterMap PollEvent.update?) := by
    rw [(hxs.map UInt32.toNat).sum_eq, (covers_reported total events).sum_byAction,
      sum_percentOf_reported]
  rw [checkedSum?_eq, hsum]

theorem overflows_after (total : UInt32) (events : List PollEvent) :
    (after total events).overflows = true ↔
      2 ^ 32 ≤ reportedSum (events.filterMap PollEvent.update?) := by
  rw [(covers_reported total events).overflows_iff, sum_percentOf_reported]

end OverallProgress

/-! ## Watches of a client -/

namespace Client

open OverallProgress (reportedSum)

section Batch

variable {c : Client} {rounds : Nat} {l : Lifetime} {actions : List Action} {s : Session}
  {earlier : Ledger Session PollCall} {e : Entry Session PollCall} {ended : Outcome Unit}

theorem overflows_overallAfter (actions : List Action) (earlier : Ledger Session PollCall) :
    (overallAfter actions earlier).overflows = true ↔ 2 ^ 32 ≤ reportedSum earlier.updates := by
  rw [overallAfter, OverallProgress.overflows_after, Ledger.updates_eq]

variable (hpre : earlier ++ [e] <+: c.watchLedger rounds l actions s)
  (hc : e.call = .report .pollDone ended)
include hpre hc

/-- **What a watch makes of the end of a batch**, by the sum that was reported. -/
theorem report_of_reportedSum :
    Polling.reportOverall logWatcher (UInt32.ofNat actions.length) (overallAfter actions earlier)
        .pollDone e.before =
      (if reportedSum earlier.updates < 2 ^ 32 then
          .done ((overallAfter actions earlier).next (UInt32.ofNat actions.length) .pollDone)
        else .unfinished,
        e.after) := by
  rw [(report_of_pollDone hpre hc).1]
  simp only [overflows_overallAfter, ← not_lt, ite_not]

theorem ended_of_reportedSum :
    ended = if reportedSum earlier.updates < 2 ^ 32 then .done () else .unfinished := by
  rw [(report_of_pollDone hpre hc).2]
  simp only [overflows_overallAfter, ← not_lt, ite_not]

/-- **A watch breaks off when its sum overflows.** This was its last call, and nothing is noted any
more. -/
theorem breaksOff_of_overflow (hover : 2 ^ 32 ≤ reportedSum earlier.updates) :
    c.watchLedger rounds l actions s = earlier ++ [e] ∧
      c.overallWait rounds l actions s = (.unfinished, e.before) := by
  have hended := ended_of_reportedSum hpre hc
  rw [if_neg hover.not_gt] at hended
  have hwait := c.overallWait_ledger rounds l actions s
  have hgo : ¬ e.call.GoesOn := by
    rw [hc, hended]
    exact nofun
  have hlast := hwait.traced.eq_of_not_goesOn hpre hgo
  have hends := hwait.ends_of_not_goesOn hpre hgo
  have hstate := hwait.traced.last
  rw [hc, hended] at hends
  rw [hlast, Ledger.last_concat] at hstate
  -- nothing is told at the end of such a batch
  have hafter := congrArg Prod.snd (report_of_pollDone hpre hc).1
  rw [reportOverall_apply, OverallProgress.told?, OverallProgress.news?_of_overflows
    ((overflows_overallAfter actions earlier).2 hover)] at hafter
  have hbefore : e.before = e.after := hafter
  exact ⟨hlast, Prod.ext (Outcome.ended_eq_unfinished.1 hends.1.symm)
    (hstate.symm.trans hbefore.symm)⟩

/-- **And its caller is told of failures alone.** -/
theorem results_of_overflow (hover : 2 ^ 32 ≤ reportedSum earlier.updates) :
    c.watchOverallProgress rounds l actions s = (.unfinished, e.before) ∧
      s.readBetween Event.result? e.before =
        (earlier.updates.filterMap (·.error?)).map fun error => .error (.action error) := by
  obtain ⟨hledger, hwait⟩ := breaksOff_of_overflow hpre hc hover
  have hwatch : c.watchOverallProgress rounds l actions s = (.unfinished, e.before) := by
    rw [watchOverallProgress_apply, hwait]
    rfl
  have hresults := c.readBetween_result? rounds l actions s
  have hupdates : Ledger.updates (earlier ++ [e]) = earlier.updates := by
    rw [Ledger.updates_concat, hc]
    exact List.append_nil _
  rw [hwatch, hwait, hledger, hupdates] at hresults
  exact ⟨hwatch, hresults.trans (List.append_nil _)⟩

end Batch

variable (c : Client) (rounds : Nat) (l : Lifetime) (actions : List Action) (s : Session)

/-- **The result of a watch is the last thing that its caller receives** from the channel of
results, whatever room it has. -/
theorem getLast?_resultsOf {result : Except Error Unit}
    (hresult : (c.overallWait rounds l actions s).1.result? = some result) (room : Nat) :
    ((Delivery.resultsOf room
      (s.notedBetween (c.watchOverallProgress rounds l actions s).2)).getLast?).map (·.2) =
        some result := by
  obtain ⟨added, hlog, -⟩ : Session.Reads Event.finish? _ s (c.overallWait rounds l actions s).2 :=
    c.reads_overallWait rounds l actions s (fun _ => rfl) fun _ _ => rfl
  have hlog' : (c.watchOverallProgress rounds l actions s).2.log =
      ((c.overallWait rounds l actions s).2.now, .finished result) :: added ++ s.log := by
    rw [watchOverallProgress_apply, hresult]
    exact congrArg _ hlog
  have hfinish : Delivery.brought Event.finish? (added.reverse ++
      [((c.overallWait rounds l actions s).2.now, .finished result)]) =
        Delivery.brought Event.finish? added.reverse ++
          [((c.overallWait rounds l actions s).2.now, result)] :=
    List.filterMap_append
  rw [Session.notedBetween_of_log_eq hlog', List.reverse_cons, Delivery.resultsOf, hfinish,
    ← List.append_assoc, List.getLast?_concat]
  rfl

/-- **When the sum of a watch overflows.** Whatever is answered, the watch works out a sum at the
end of each batch: the sum of the last percentages of all actions that were reported. An addition
overflows exactly if that sum is `2 ^ 32` or more, and this does not depend on their order; it is
less if there are no more than so many actions, and those that run report no more than a hundred
percent. When an addition overflows the watch breaks off there, and its caller is told of failures,
but never how the watch has ended. Otherwise it goes on; and when its wait is over it tells the
result, which the caller receives after all else. -/
theorem watchOverallProgress_sum :
    (∀ (earlier : Ledger Session PollCall) (e : Entry Session PollCall) ended,
      earlier ++ [e] <+: c.watchLedger rounds l actions s → e.call = .report .pollDone ended →
      (∀ xs : List UInt32, xs.Perm ((overallAfter actions earlier).byAction.map (·.2)) →
        checkedSum? xs =
          if reportedSum earlier.updates < 2 ^ 32 then
            some (UInt32.ofNat (reportedSum earlier.updates))
          else none) ∧
      Polling.reportOverall logWatcher (UInt32.ofNat actions.length) (overallAfter actions earlier)
          .pollDone e.before =
        (if reportedSum earlier.updates < 2 ^ 32 then
            .done ((overallAfter actions earlier).next (UInt32.ofNat actions.length) .pollDone)
          else .unfinished,
          e.after) ∧
      (2 ^ 32 ≤ reportedSum earlier.updates →
        c.watchLedger rounds l actions s = earlier ++ [e] ∧
        c.watchOverallProgress rounds l actions s = (.unfinished, e.before) ∧
        s.readBetween Event.result? e.before =
          (earlier.updates.filterMap (·.error?)).map fun error => .error (.action error)) ∧
      ((∀ u ∈ earlier.updates, u.isRunning → u.progress ≤ 100) →
        (idSet earlier.updates).card ≤ 42949672 → reportedSum earlier.updates < 2 ^ 32)) ∧
    ((c.watchOverallProgress rounds l actions s).1 = .done () ↔
      (c.overallWait rounds l actions s).1.result?.isSome) ∧
    ∀ result, (c.overallWait rounds l actions s).1.result? = some result → ∀ room,
      ((Delivery.resultsOf room
        (s.notedBetween (c.watchOverallProgress rounds l actions s).2)).getLast?).map (·.2) =
          some result := by
  refine ⟨fun earlier e ended hpre hc => ⟨fun xs hxs => ?_, report_of_reportedSum hpre hc,
    fun hover => ⟨(breaksOff_of_overflow hpre hc hover).1, results_of_overflow hpre hc hover⟩,
    OverallProgress.reportedSum_lt⟩, ?_, fun result => c.getLast?_resultsOf rounds l actions s⟩
  · rw [OverallProgress.checkedSum?_after hxs, ← Ledger.updates_eq]
  · rw [watchOverallProgress_apply]
    cases (c.overallWait rounds l actions s).1.result? <;> simp

end Client

namespace Loopback

/-- A session in which two actions report more percent than fit into 32 bits, and then succeed. -/
def hugeSession : Session :=
  session
    [listing [{ snapshot 1 .running with progress := 2147483648 },
        { snapshot 2 .running with progress := 2147483648 }],
      listing [snapshot 1 .success, snapshot 2 .success]]

/-- The calls of a watch of the two. -/
abbrev hugeCalls : Ledger Session PollCall := client.watchLedger 2 .unbounded pair hugeSession

/-- Is the call the report of the end of a batch? -/
def isPollDone : PollCall → Bool
  | .report .pollDone _ => true
  | _ => false

/-- At the end of the second batch the sum of two percentages of `2 ^ 31` overflows. The watch
breaks off, although the server would report that both actions have succeeded, and nobody is told
anything. -/
theorem not_checkedSum_huge :
    ∃ (earlier : Ledger Session PollCall) (e : Entry Session PollCall) (ended : Outcome Unit),
      hugeCalls = earlier ++ [e] ∧ e.call = .report .pollDone ended ∧
        OverallProgress.reportedSum earlier.updates = 2 ^ 32 ∧
        checkedSum? ((Client.overallAfter pair earlier).byAction.map (·.2)) = none ∧
        client.watchOverallProgress 2 .unbounded pair hugeSession = (.unfinished, e.before) ∧
        hugeSession.readBetween Event.result? e.before = [] := by
  have hsixth : (hugeCalls[5]?).map (isPollDone ·.call) = some true := by decide +kernel
  obtain ⟨e, he, hdone⟩ := Option.map_eq_some_iff.1 hsixth
  obtain ⟨ended, hc⟩ : ∃ ended, e.call = .report .pollDone ended := by
    cases hcall : e.call with
    | report event ended => cases event <;> simp [hcall, isPollDone] at hdone ⊢
    | _ => simp [hcall, isPollDone] at hdone
  have htake : hugeCalls.take 6 = hugeCalls.take 5 ++ [e] := by
    rw [List.take_add_one, he, Option.toList_some]
  have hpre : hugeCalls.take 5 ++ [e] <+: hugeCalls := htake ▸ List.take_prefix 6 _
  have hsum : OverallProgress.reportedSum (Ledger.updates (hugeCalls.take 5)) = 2 ^ 32 := by
    decide +kernel
  have hnone : (Ledger.updates (hugeCalls.take 5)).filterMap (·.error?) = [] := by decide +kernel
  obtain ⟨hledger, -⟩ := Client.breaksOff_of_overflow hpre hc hsum.ge
  obtain ⟨hwatch, hresults⟩ := Client.results_of_overflow hpre hc hsum.ge
  rw [hnone] at hresults
  exact ⟨hugeCalls.take 5, e, ended, hledger, hc, hsum, by decide +kernel, hwatch, hresults⟩

end Loopback

end CloudClient
