import CloudClient.Proofs.DueReports
import CloudClient.Proofs.WatchProgress

/-!
# The average of a watch

At the end of each batch a watch works out how far its actions have come. It adds up one percentage
for each *id*, and divides by the number of *listed* actions. If no action is listed twice, this is
the average over the actions. An action that is listed twice is added once and counted twice, so the
result falls short: even when all actions are finished, it is not a hundred.

* `OverallProgress.after` — the progress after reports. What it has of an action is what the last
  snapshot says that was reported (`OverallProgress.lastPercent`).
* `OverallProgress.documentedAverage` — the average over the listed actions, from what the answers
  say.
* `Client.watchOverallProgress_average` — what is worked out at the end of each batch, and when it
  is the average.
-/

namespace CloudClient

open Polling (Tracks idSet trackedIds finishedIds runningAfter)

/-! ## What the last snapshots say -/

namespace OverallProgress

/-- How far an action has come by the last of its snapshots; zero if there is none. -/
def lastPercent (us : List Action) (id : Int) : Nat :=
  ((us.reverse.find? (·.id = id)).map (·.percent.toNat)).getD 0

/-- The progress of a watch of so many actions after these reports. -/
def after (total : UInt32) (events : List PollEvent) : OverallProgress :=
  events.foldl (next total) start

variable {total : UInt32} {ids : Finset Int} {us vs : List Action} {events : List PollEvent}

theorem recordAll_append (p : OverallProgress) (us vs : List Action) :
    p.recordAll (us ++ vs) = (p.recordAll us).recordAll vs :=
  List.foldl_append

/-- The last snapshots are what was recorded. -/
theorem percentOf_start_recordAll (us : List Action) (id : Int) :
    (start.recordAll us).percentOf id = lastPercent us id := by
  induction us using List.reverseRecOn with
  | nil => rfl
  | append_singleton us u ih =>
    have hrecord : start.recordAll (us ++ [u]) = (start.recordAll us).record u :=
      recordAll_append start us [u]
    rw [hrecord, percentOf_record, lastPercent, List.reverse_concat, List.find?_cons]
    by_cases h : id = u.id
    · simp [h]
    · simp only [if_neg h, ih, lastPercent, decide_eq_false (Ne.symm h)]

theorem byAction_foldl_next (total : UInt32) (p : OverallProgress) (events : List PollEvent) :
    (events.foldl (next total) p).byAction =
      (p.recordAll (events.filterMap PollEvent.update?)).byAction := by
  induction events using List.reverseRecOn with
  | nil => rfl
  | append_singleton events event ih =>
    rw [List.foldl_concat, List.filterMap_append, recordAll_append]
    cases event with
    | update a =>
      change setPercent a.id a.percent _ = setPercent a.id a.percent _
      rw [ih]
    | pollDone => exact ih

/-- What was recorded after reports is what their snapshots say. -/
theorem percentOf_after (total : UInt32) (events : List PollEvent) (id : Int) :
    (after total events).percentOf id = lastPercent (events.filterMap PollEvent.update?) id := by
  rw [← percentOf_start_recordAll, percentOf, percentOf, after, byAction_foldl_next]

theorem sum_percentOf_after (total : UInt32) (events : List PollEvent) (ids : Finset Int) :
    ∑ id ∈ ids, (after total events).percentOf id =
      ∑ id ∈ ids, lastPercent (events.filterMap PollEvent.update?) id :=
  Finset.sum_congr rfl fun id _ => percentOf_after total events id

/-- Nothing is recorded of other actions than the reported ones. -/
theorem covers_after (total : UInt32)
    (h : ∀ u ∈ events.filterMap PollEvent.update?, u.id ∈ ids) :
    (after total events).Covers ids := by
  obtain ⟨hnodup, hsubset⟩ := (covers_start ids).recordAll h
  rw [← byAction_foldl_next total] at hnodup hsubset
  exact ⟨hnodup, hsubset⟩

/-- No snapshot says more than a hundred percent, if those of running actions do not. -/
theorem lastPercent_le_hundred (hle : ∀ u ∈ us, u.isRunning → u.progress ≤ 100) (id : Int) :
    lastPercent us id ≤ 100 := by
  rw [lastPercent]
  rcases hfind : us.reverse.find? (·.id = id) with _ | u
  · rw [hfind]
    exact Nat.zero_le _
  · have hu : u ∈ us := List.mem_reverse.1 (List.mem_of_find?_eq_some hfind)
    rw [hfind, Option.map_some, Option.getD_some]
    by_cases hrunning : u.isRunning = true
    · rw [percent_of_isRunning hrunning]
      exact UInt32.le_iff_toNat_le.1 (hle u hu hrunning)
    · exact (toNat_percent_of_isFinished (Action.isFinished_iff.2 hrunning)).le

theorem sum_lastPercent_le (hle : ∀ u ∈ us, u.isRunning → u.progress ≤ 100) (ids : Finset Int) :
    ∑ id ∈ ids, lastPercent us id ≤ ids.card * 100 := by
  rw [← smul_eq_mul]
  exact Finset.sum_le_card_nsmul _ _ _ fun id _ => lastPercent_le_hundred hle id

/-! ## What the answers say -/

/-- How far an action has come, by the snapshots at first and by the answers: a hundred percent once
it was reported as finished; and before that its progress in the latest answer, or zero if there was
none yet. -/
def reportedPercent (actions : List Action) (batches : List (List Action)) (id : Int) : Nat :=
  if id ∈ finishedIds (actions ++ batches.flatten) then 100
  else (((batches.getLast?.getD []).find? (·.id = id)).map (·.progress.toNat)).getD 0

/-- The average over the listed actions. -/
def documentedAverage (actions : List Action) (batches : List (List Action)) : Nat :=
  (actions.map fun a => reportedPercent actions batches a.id).sum / actions.length

variable {actions : List Action} {batches : List (List Action)}

/-- An action runs on unless it was reported as finished. -/
theorem mem_runningAfter_or_mem_finishedIds (batches : List (List Action)) {id : Int}
    (hid : id ∈ idSet actions) :
    id ∈ runningAfter actions batches ∨ id ∈ finishedIds (actions ++ batches.flatten) := by
  obtain ⟨a, ha, rfl⟩ := Polling.mem_idSet.1 hid
  rw [Polling.finishedIds_append, Finset.mem_union, runningAfter, Finset.mem_sdiff]
  by_cases hrunning : a.isRunning = true
  · have htracked : a.id ∈ trackedIds actions := Polling.mem_trackedIds.2 ⟨a, ha, hrunning, rfl⟩
    tauto
  · exact .inr (.inl (Polling.mem_finishedIds.2 ⟨a, ha, Action.isFinished_iff.2 hrunning, rfl⟩))

/-- When no action runs on, the average is a hundred. -/
theorem documentedAverage_eq_hundred (hne : actions ≠ [])
    (hdone : runningAfter actions batches = ∅) : documentedAverage actions batches = 100 := by
  have hall : ∀ a ∈ actions, reportedPercent actions batches a.id = 100 := by
    intro a ha
    have hid : a.id ∈ idSet actions := Polling.mem_idSet.2 ⟨a, ha, rfl⟩
    rcases mem_runningAfter_or_mem_finishedIds batches hid with hrem | hfinished
    · rw [hdone] at hrem
      exact absurd hrem (Finset.notMem_empty _)
    · exact if_pos hfinished
  rw [documentedAverage, List.map_congr_left hall, List.map_const', List.sum_replicate,
    smul_eq_mul]
  exact Nat.mul_div_cancel_left 100 (List.length_pos_iff.2 hne)

section OwnIds

variable (hnodup : (actions.map (·.id)).Nodup)
include hnodup

/-- Without repeated ids, the average adds up one percentage for each id. -/
theorem documentedAverage_eq : documentedAverage actions batches =
    (∑ id ∈ idSet actions, reportedPercent actions batches id) / actions.length := by
  rw [documentedAverage, idSet, List.sum_toFinset _ hnodup, List.map_map]
  rfl

theorem recorded_of_tracks (h : Tracks actions batches) :
    Recorded actions batches
      (start.recordAll (actions.filter (·.isFinished) ++ batches.flatten)) := by
  induction h with
  | nil =>
    rw [List.flatten_nil, List.append_nil]
    exact recorded_first hnodup
  | concat h hids ih =>
    rw [List.flatten_append, List.flatten_singleton, ← List.append_assoc, recordAll_append]
    exact ih.recordAll hids

/-- An action that runs on was not reported as finished. -/
theorem notMem_finishedIds {id : Int} (hid : id ∈ runningAfter actions batches) :
    id ∉ finishedIds (actions ++ batches.flatten) := by
  obtain ⟨htracked, hnot⟩ := Finset.mem_sdiff.1 hid
  rw [Polling.finishedIds_append, Finset.mem_union, not_or]
  refine ⟨fun hfinished => ?_, hnot⟩
  obtain ⟨a, ha, hrunning, rfl⟩ := Polling.mem_trackedIds.1 htracked
  obtain ⟨b, hb, hbfinished, heq⟩ := Polling.mem_finishedIds.1 hfinished
  obtain rfl := List.inj_on_of_nodup_map hnodup hb ha heq
  exact Action.isFinished_iff.1 hbfinished hrunning

omit hnodup in
/-- Among snapshots with ids of their own, each is found by its id. -/
theorem find?_id_eq (hown : (us.map (·.id)).Nodup) {u : Action} (hu : u ∈ us) :
    us.find? (·.id = u.id) = some u := by
  rcases hfind : us.find? (·.id = u.id) with _ | v
  · exact absurd (List.find?_eq_none.1 hfind u hu) (by simp)
  · have hid : v.id = u.id := by simpa using List.find?_some hfind
    rw [hfind, List.inj_on_of_nodup_map hown (List.mem_of_find?_eq_some hfind) hu hid]

/-- **If no id is repeated, the last snapshots say what the answers say.** -/
theorem lastPercent_eq_reportedPercent (h : Tracks actions batches) {id : Int}
    (hid : id ∈ idSet actions) :
    lastPercent (actions.filter (·.isFinished) ++ batches.flatten) id =
      reportedPercent actions batches id := by
  have hrecorded := recorded_of_tracks hnodup h
  rw [← percentOf_start_recordAll]
  by_cases hfinished : id ∈ finishedIds (actions ++ batches.flatten)
  · have hrem : id ∉ runningAfter actions batches := fun hrem =>
      notMem_finishedIds hnodup hrem hfinished
    rw [hrecorded.finished id hid hrem, reportedPercent, if_pos hfinished]
  have hrem := (mem_runningAfter_or_mem_finishedIds batches hid).resolve_right hfinished
  rw [reportedPercent, if_neg hfinished]
  cases h with
  | nil =>
    -- nothing was reported of it yet
    rw [List.flatten_nil, List.append_nil] at hfinished ⊢
    refine percentOf_recordAll_of_ne start fun u hu heq => hfinished ?_
    obtain ⟨hu, hufinished⟩ := List.mem_filter.1 hu
    exact Polling.mem_finishedIds.2 ⟨u, by simpa using hu, hufinished, heq⟩
  | @concat batches us h hids =>
    obtain ⟨hbefore, hnot⟩ := Polling.mem_runningAfter_concat.1 hrem
    obtain ⟨u, hu, rfl⟩ := (mem_runningAfter_iff hids).1 hbefore
    have hrunning : u.isRunning = true := by
      by_contra hstopped
      exact hnot (Polling.mem_finishedIds.2 ⟨u, hu, Action.isFinished_iff.2 hstopped, rfl⟩)
    have hown := nodup_of_perm_sort hids
    rw [List.flatten_append, List.flatten_singleton, ← List.append_assoc, recordAll_append,
      percentOf_recordAll_of_mem _ hown hu, percent_of_isRunning hrunning, List.getLast?_concat,
      Option.getD_some, find?_id_eq hown hu]
    rfl

end OwnIds

/-! ## What is worked out -/

theorem card_idSet_le (actions : List Action) : (idSet actions).card ≤ actions.length := by
  have hle := List.toFinset_card_le (actions.map (·.id))
  rwa [List.length_map] at hle

/-- There are fewer ids than actions if an id is repeated. -/
theorem card_idSet_lt (hrepeated : ¬ (actions.map (·.id)).Nodup) :
    (idSet actions).card < actions.length := by
  refine (card_idSet_le actions).lt_of_ne fun heq => hrepeated ?_
  have hcard : (idSet actions).card = (actions.map (·.id)).length :=
    heq.trans (List.length_map _).symm
  exact Multiset.coe_nodup.1 (Multiset.toFinset_card_eq_card_iff_nodup.1 hcard)

section Listed

variable (hne : actions ≠ []) (hlen : actions.length < 42949673)
  (hids : ∀ u ∈ events.filterMap PollEvent.update?, u.id ∈ idSet actions)
  (hle : ∀ u ∈ events.filterMap PollEvent.update?, u.isRunning → u.progress ≤ 100)

include hne hlen hids hle

variable (total)

/-- **One percentage is added for each id**, and the sum is divided by the number of listed
actions. -/
theorem toNat_average?_after :
    ((after total events).average? (UInt32.ofNat actions.length)).map UInt32.toNat =
      some ((∑ id ∈ idSet actions, lastPercent (events.filterMap PollEvent.update?) id) /
        actions.length) := by
  have hsum := sum_lastPercent_le hle (idSet actions)
  have hcard := card_idSet_le actions
  rw [← sum_percentOf_after total] at hsum
  rw [(covers_after total hids).toNat_average? (by omega) (ofNat_length_ne_zero hne hlen),
    toNat_ofNat_length hlen, sum_percentOf_after]

/-- **If an id is repeated, the result is less than a hundred.** -/
theorem average?_after_ne_hundred (hrepeated : ¬ (actions.map (·.id)).Nodup) :
    (after total events).average? (UInt32.ofNat actions.length) ≠ some 100 := by
  intro heq
  have hsum := sum_lastPercent_le hle (idSet actions)
  have hcard := card_idSet_lt hrepeated
  have haverage := toNat_average?_after total hne hlen hids hle
  rw [heq, Option.map_some, Option.some.injEq] at haverage
  have hlt : (∑ id ∈ idSet actions, lastPercent (events.filterMap PollEvent.update?) id) /
      actions.length < 100 := Nat.div_lt_of_lt_mul (by omega)
  rw [← haverage] at hlt
  exact absurd hlt (by decide)

end Listed

end OverallProgress

/-! ## Watches of a client -/

namespace Ledger

variable {σ : Type} {es earlier : Ledger σ PollCall}

theorem accepted_of_prefix (hpre : earlier <+: es) : earlier.accepted <+: es.accepted :=
  (hpre.filterMap _).filterMap _

theorem Faithful.of_prefix (h : es.Faithful) (hpre : earlier <+: es) : earlier.Faithful :=
  fun poll hpoll => h poll ((hpre.filterMap _).subset hpoll)

end Ledger

namespace Client

open OverallProgress (after lastPercent documentedAverage)

variable {c : Client} {rounds : Nat} {l : Lifetime} {actions : List Action} {s : Session}
  {earlier : Ledger Session PollCall} {e : Entry Session PollCall} {ended : Outcome Unit}

/-- At the end of a batch, all snapshots were reported that have come up to then. -/
theorem updates_of_pollDone (hpre : earlier ++ [e] <+: c.watchLedger rounds l actions s)
    (hc : e.call = .report .pollDone ended) : earlier.updates = earlier.dueUpdates actions := by
  have hturn : (c.watchLedger rounds l actions s).Each (Polling.InTurn _ _ _) :=
    Polling.ledger_inTurn _ _ _ _ _ _
  have hwhole := congrArg (·.filterMap PollEvent.update?) ((hturn earlier e hpre).whole ended hc)
  rw [Ledger.updates_eq, ← Ledger.filterMap_update?_due, ← hwhole, List.filterMap_append]
  exact (List.append_nil _).symm

/-- If the answers are faithful, those up to some call track the actions. -/
theorem tracks_earlier (hf : (c.watchLedger rounds l actions s).Faithful)
    (hpre : earlier ++ [e] <+: c.watchLedger rounds l actions s) :
    Tracks actions earlier.accepted := by
  have hpre' := (List.prefix_append earlier [e]).trans hpre
  have hfits := (c.overallWait_ledger rounds l actions s).traced.fits.of_prefix hpre'
  exact Polling.Traced.tracks ⟨hfits, rfl⟩ (hf.of_prefix hpre')

/-- The progress of a watch of these actions after these calls. -/
def overallAfter (actions : List Action) (es : Ledger Session PollCall) : OverallProgress :=
  after (UInt32.ofNat actions.length) es.events

/-- At the end of a batch the watch goes on, unless its sum overflows. -/
theorem report_of_pollDone (hpre : earlier ++ [e] <+: c.watchLedger rounds l actions s)
    (hc : e.call = .report .pollDone ended) :
    Polling.reportOverall logWatcher (UInt32.ofNat actions.length) (overallAfter actions earlier)
        .pollDone e.before =
      (if (overallAfter actions earlier).overflows then .unfinished
        else .done ((overallAfter actions earlier).next (UInt32.ofNat actions.length) .pollDone),
        e.after) ∧
      ended = if (overallAfter actions earlier).overflows then .unfinished else .done () := by
  obtain ⟨hended, hafter⟩ :=
    ((c.watchLedger_batched rounds l actions s).reports earlier e hpre).report_eq _ _ hc
  change (Polling.reportOverall logWatcher _ (overallAfter actions earlier) _ _).1.ended = _
    at hended
  change (Polling.reportOverall logWatcher _ (overallAfter actions earlier) _ _).2 = _ at hafter
  rw [reportOverall_apply] at hended hafter ⊢
  refine ⟨Prod.ext rfl hafter, hended.symm.trans ?_⟩
  rw [OverallProgress.breaksOff]
  split_ifs <;> rfl

/-- Faithful answers report of listed actions alone. -/
theorem mem_idSet_of_mem_dueUpdates (htracks : Tracks actions earlier.accepted) {u : Action}
    (hu : u ∈ earlier.dueUpdates actions) : u.id ∈ idSet actions := by
  rcases List.mem_append.1 hu with hu | hu
  · exact Polling.mem_idSet.2 ⟨u, List.mem_of_mem_filter hu, rfl⟩
  · obtain ⟨a, ha, -, heq⟩ := Polling.mem_trackedIds.1 (htracks.mem_trackedIds hu)
    exact Polling.mem_idSet.2 ⟨a, ha, heq⟩

/-- Only answers report of running actions. -/
theorem progress_le_of_mem_dueUpdates
    (hle : ∀ us ∈ earlier.accepted, ∀ u ∈ us, u.isRunning → u.progress ≤ 100) {u : Action}
    (hu : u ∈ earlier.dueUpdates actions) (hrunning : u.isRunning) : u.progress ≤ 100 := by
  rcases List.mem_append.1 hu with hu | hu
  · exact absurd hrunning (Action.isFinished_iff.1 (List.mem_filter.1 hu).2)
  · obtain ⟨us, hus, hmem⟩ := List.mem_flatten.1 hu
    exact hle us hus u hmem hrunning

section EndOfBatch

variable (hne : actions ≠ []) (hlen : actions.length < 42949673)
  (hf : (c.watchLedger rounds l actions s).Faithful)
  (hle : ∀ us ∈ (c.watchLedger rounds l actions s).accepted, ∀ u ∈ us, u.isRunning →
    u.progress ≤ 100)
  (hpre : earlier ++ [e] <+: c.watchLedger rounds l actions s)
  (hc : e.call = .report .pollDone ended)
include hpre hc

include hf in
theorem mem_idSet_of_pollDone :
    ∀ u ∈ earlier.events.filterMap PollEvent.update?, u.id ∈ idSet actions := by
  intro u hu
  rw [← Ledger.updates_eq, updates_of_pollDone hpre hc] at hu
  exact mem_idSet_of_mem_dueUpdates (tracks_earlier hf hpre) hu

include hle in
theorem progress_le_of_pollDone :
    ∀ u ∈ earlier.events.filterMap PollEvent.update?, u.isRunning → u.progress ≤ 100 := by
  intro u hu
  rw [← Ledger.updates_eq, updates_of_pollDone hpre hc] at hu
  have hpre' := Ledger.accepted_of_prefix ((List.prefix_append earlier [e]).trans hpre)
  exact progress_le_of_mem_dueUpdates (fun us hus => hle us (hpre'.subset hus)) hu

include hne hlen hf hle

theorem average?_of_pollDone :
    ((overallAfter actions earlier).average? (UInt32.ofNat actions.length)).map UInt32.toNat =
      some ((∑ id ∈ idSet actions, lastPercent earlier.updates id) / actions.length) := by
  rw [overallAfter, OverallProgress.toNat_average?_after _ hne hlen
    (mem_idSet_of_pollDone hf hpre hc) (progress_le_of_pollDone hle hpre hc), Ledger.updates_eq]

/-- The sum does not overflow, so the watch goes on. -/
theorem report_eq_done_of_pollDone :
    Polling.reportOverall logWatcher (UInt32.ofNat actions.length) (overallAfter actions earlier)
        .pollDone e.before =
      (.done ((overallAfter actions earlier).next (UInt32.ofNat actions.length) .pollDone),
        e.after) := by
  have hgoes : (overallAfter actions earlier).overflows = false := by
    rw [← Bool.not_eq_true]
    intro hover
    have haverage := average?_of_pollDone hne hlen hf hle hpre hc
    rw [OverallProgress.average?, Option.isNone_iff_eq_none.1 hover] at haverage
    cases haverage
  have hreport := (report_of_pollDone hpre hc).1
  rwa [hgoes] at hreport

/-- **If no id is repeated, the watch works out the average.** -/
theorem average?_of_nodup (hnodup : (actions.map (·.id)).Nodup) :
    ((overallAfter actions earlier).average? (UInt32.ofNat actions.length)).map UInt32.toNat =
      some (documentedAverage actions earlier.accepted) := by
  rw [average?_of_pollDone hne hlen hf hle hpre hc, OverallProgress.documentedAverage_eq hnodup,
    updates_of_pollDone hpre hc]
  congr 2
  exact Finset.sum_congr rfl fun id hid =>
    OverallProgress.lastPercent_eq_reportedPercent hnodup (tracks_earlier hf hpre) hid

/-- **If an id is repeated, the watch never works out a hundred.** -/
theorem average?_ne_hundred (hrepeated : ¬ (actions.map (·.id)).Nodup) :
    (overallAfter actions earlier).average? (UInt32.ofNat actions.length) ≠ some 100 :=
  OverallProgress.average?_after_ne_hundred _ hne hlen (mem_idSet_of_pollDone hf hpre hc)
    (progress_le_of_pollDone hle hpre hc) hrepeated

end EndOfBatch

variable (c rounds l actions s)

/-- **What a watch works out at the end of each batch.** Let there be actions to watch, less than so
many; let the answers be faithful, and let those of running actions report no more than a hundred
percent. At the end of each batch the watch adds up one percentage for each id, by the last snapshot
of it, and divides by the number of listed actions. This is the average over the actions if no id is
repeated. When the watch ends well, the average is a hundred at last; and the watch has worked out a
hundred exactly if no id is repeated. -/
theorem watchOverallProgress_average (hne : actions ≠ []) (hlen : actions.length < 42949673)
    (hf : (c.watchLedger rounds l actions s).Faithful)
    (hle : ∀ us ∈ (c.watchLedger rounds l actions s).accepted, ∀ u ∈ us, u.isRunning →
      u.progress ≤ 100) :
    (∀ (earlier : Ledger Session PollCall) (e : Entry Session PollCall) ended,
      earlier ++ [e] <+: c.watchLedger rounds l actions s → e.call = .report .pollDone ended →
      Polling.reportOverall logWatcher (UInt32.ofNat actions.length) (overallAfter actions earlier)
          .pollDone e.before =
        (.done ((overallAfter actions earlier).next (UInt32.ofNat actions.length) .pollDone),
          e.after) ∧
      ((overallAfter actions earlier).average? (UInt32.ofNat actions.length)).map UInt32.toNat =
        some ((∑ id ∈ idSet actions, lastPercent earlier.updates id) / actions.length) ∧
      ((actions.map (·.id)).Nodup →
        ((overallAfter actions earlier).average? (UInt32.ofNat actions.length)).map UInt32.toNat =
          some (documentedAverage actions earlier.accepted))) ∧
    ((c.overallWait rounds l actions s).1.result? = some (.ok ()) →
      ∃ (earlier : Ledger Session PollCall) (e : Entry Session PollCall),
        c.watchLedger rounds l actions s = earlier ++ [e] ∧
        e.call = .report .pollDone (.done ()) ∧
        documentedAverage actions earlier.accepted = 100 ∧
        ((overallAfter actions earlier).average? (UInt32.ofNat actions.length) = some 100 ↔
          (actions.map (·.id)).Nodup)) := by
  refine ⟨fun earlier e ended hpre hc => ⟨report_eq_done_of_pollDone hne hlen hf hle hpre hc,
    average?_of_pollDone hne hlen hf hle hpre hc, average?_of_nodup hne hlen hf hle hpre hc⟩,
    fun hok => ?_⟩
  obtain ⟨⟨earlier, e, hledger, hc⟩, hdone⟩ := watchLedger_of_ok hok
  have hpre : earlier ++ [e] <+: c.watchLedger rounds l actions s := hledger ▸ List.prefix_rfl
  rw [hledger, Ledger.accepted_concat_of_fetch?_eq_none (by rw [hc]; rfl)] at hdone
  have hhundred := OverallProgress.documentedAverage_eq_hundred hne hdone
  refine ⟨earlier, e, hledger, hc, hhundred, fun heq => ?_, fun hnodup => ?_⟩
  · by_contra hrepeated
    exact average?_ne_hundred hne hlen hf hle hpre hc hrepeated heq
  · have haverage := average?_of_nodup hne hlen hf hle hpre hc hnodup
    rw [hhundred] at haverage
    obtain ⟨x, hx, hnat⟩ := Option.map_eq_some_iff.1 haverage
    rw [hx, UInt32.toNat_inj.1 (hnat.trans (by rfl : 100 = (100 : UInt32).toNat))]

end Client

namespace Loopback

open OverallProgress (documentedAverage)

/-- A watch of two actions works out a hundred at last. -/
theorem watchOverallProgress_average_pair :
    ∃ (earlier : Ledger Session PollCall) (e : Entry Session PollCall),
      client.watchLedger 3 .unbounded pair pairSession = earlier ++ [e] ∧
        documentedAverage pair earlier.accepted = 100 ∧
        (Client.overallAfter pair earlier).average? 2 = some 100 := by
  have haccepted : (client.watchLedger 3 .unbounded pair pairSession).accepted =
      [[{ snapshot 1 .running with progress := 50 }, snapshot 2 .running],
        [snapshot 1 .success, { snapshot 2 .running with progress := 50 }],
        [snapshot 2 .success]] := by
    decide +kernel
  obtain ⟨-, hwell⟩ := client.watchOverallProgress_average 3 .unbounded pair pairSession
    (by decide) (by decide) (by decide +kernel) (by rw [haccepted]; decide)
  have hdone : (client.overallWait 3 .unbounded pair pairSession).1.value?.isSome := by
    decide +kernel
  obtain ⟨p, hp⟩ := Option.isSome_iff_exists.1 hdone
  rw [Outcome.value?_eq_some.1 hp] at hwell
  obtain ⟨earlier, e, hledger, -, hhundred, hiff⟩ := hwell rfl
  exact ⟨earlier, e, hledger, hhundred, hiff.2 (by decide)⟩

/-- One action, listed twice. -/
def twice : List Action := [snapshot 1 .running, snapshot 1 .running]

/-- A session in which it succeeds. -/
def twiceSession : Session := session [listing [snapshot 1 .success]]

/-- When the action is finished, a watch of the list has worked out fifty, and the average over it
is a hundred. The answer is faithful. -/
theorem not_average_twice :
    (client.watchLedger 1 .unbounded twice twiceSession).Faithful ∧
    (∀ us ∈ (client.watchLedger 1 .unbounded twice twiceSession).accepted, ∀ u ∈ us, u.isRunning →
      u.progress ≤ 100) ∧
    ∃ (earlier : Ledger Session PollCall) (e : Entry Session PollCall),
      client.watchLedger 1 .unbounded twice twiceSession = earlier ++ [e] ∧
        e.call = .report .pollDone (.done ()) ∧
        (Client.overallAfter twice earlier).average? 2 = some 50 ∧
        documentedAverage twice earlier.accepted = 100 := by
  have haccepted : (client.watchLedger 1 .unbounded twice twiceSession).accepted =
      [[snapshot 1 .success]] := by
    decide +kernel
  have hf : (client.watchLedger 1 .unbounded twice twiceSession).Faithful := by decide +kernel
  have hle : ∀ us ∈ (client.watchLedger 1 .unbounded twice twiceSession).accepted, ∀ u ∈ us,
      u.isRunning → u.progress ≤ 100 := by
    rw [haccepted]
    decide
  have hdone : (client.overallWait 1 .unbounded twice twiceSession).1.value?.isSome := by
    decide +kernel
  obtain ⟨p, hp⟩ := Option.isSome_iff_exists.1 hdone
  have hok : (client.overallWait 1 .unbounded twice twiceSession).1.result? = some (.ok ()) := by
    rw [Outcome.value?_eq_some.1 hp]
    rfl
  obtain ⟨⟨earlier, e, hledger, hc⟩, -⟩ := Client.watchLedger_of_ok hok
  have hpre : earlier ++ [e] <+: client.watchLedger 1 .unbounded twice twiceSession :=
    hledger ▸ List.prefix_rfl
  rw [hledger, Ledger.accepted_concat_of_fetch?_eq_none (by rw [hc]; rfl)] at haccepted
  refine ⟨hf, hle, earlier, e, hledger, hc, ?_, ?_⟩
  · have haverage := Client.average?_of_pollDone (by decide) (by decide) hf hle hpre hc
    rw [Client.updates_of_pollDone hpre hc, Ledger.dueUpdates, haccepted] at haverage
    have hfifty : _ = some 50 := haverage.trans (by decide +kernel)
    obtain ⟨x, hx, hnat⟩ := Option.map_eq_some_iff.1 hfifty
    exact hx.trans (congrArg some (UInt32.toNat_inj.1 hnat))
  · rw [haccepted]
    decide +kernel

end Loopback

end CloudClient
