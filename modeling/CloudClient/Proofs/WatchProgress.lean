import CloudClient.Proofs.Percentages
import CloudClient.Proofs.WatchNews

/-!
# The percentages of a watch

Whoever watches actions is offered the average of their percentages after each batch of snapshots,
if it has changed and is not zero. If the answers are faithful and no action falls behind, then what
is offered grows from one offer to the next, and it is never more than a hundred.

* `OverallProgress.offersFrom` — what is offered after each batch; it is all that is offered
  (`Client.readBetween_percent?`).
* `OverallProgress.Recorded` — what has been recorded after batches that track the actions: a
  hundred for each that is not running any more, and for the others the last percentage that was
  reported.
* `OverallProgress.Offering` — what has been offered is ascending, and the last offer is the average
  as it is now.
* `Polling.Tracks.progress` — both are kept by each batch, and so they hold of every watch. When the
  watch ends well, nothing is left but hundreds.
-/

namespace CloudClient

open Polling (Tracks idSet runningAfter)

/-! ## Offers -/

namespace OverallProgress

/-- What is offered after each batch. -/
def offersFrom (total : UInt32) : OverallProgress → List (List Action) → List (Option UInt32)
  | _, [] => []
  | p, us :: rest =>
    (p.recordAll us).news? total :: offersFrom total ((p.recordAll us).next total .pollDone) rest

/-- The progress after batches. -/
def afterBatches (total : UInt32) (p : OverallProgress) (batches : List (List Action)) :
    OverallProgress :=
  batches.foldl (fun p us => (p.recordAll us).next total .pollDone) p

variable {total : UInt32} {p : OverallProgress}

@[simp] theorem length_offersFrom (total : UInt32) (p : OverallProgress)
    (batches : List (List Action)) : (offersFrom total p batches).length = batches.length := by
  induction batches generalizing p with
  | nil => rfl
  | cons us rest ih => rw [offersFrom, List.length_cons, ih, List.length_cons]

theorem offersFrom_append (total : UInt32) (p : OverallProgress) (bs cs : List (List Action)) :
    offersFrom total p (bs ++ cs) =
      offersFrom total p bs ++ offersFrom total (afterBatches total p bs) cs := by
  induction bs generalizing p with
  | nil => rfl
  | cons us rest ih =>
    rw [List.cons_append, offersFrom, offersFrom, ih, List.cons_append]
    rfl

theorem afterBatches_concat (total : UInt32) (p : OverallProgress) (bs : List (List Action))
    (us : List Action) :
    afterBatches total p (bs ++ [us]) =
      ((afterBatches total p bs).recordAll us).next total .pollDone :=
  List.foldl_concat ..

theorem reduceOption_offersFrom_concat (total : UInt32) (p : OverallProgress)
    (bs : List (List Action)) (us : List Action) :
    (offersFrom total p (bs ++ [us])).reduceOption =
      (offersFrom total p bs).reduceOption ++
        (((afterBatches total p bs).recordAll us).news? total).toList := by
  rw [offersFrom_append, List.reduceOption_append]
  exact congrArg _ (List.reduceOption_singleton _)

theorem foldl_next_updates (p : OverallProgress) (us : List Action) :
    (us.map .update).foldl (next total) p = p.recordAll us := by
  rw [List.foldl_map]
  rfl

/-- Snapshots alone offer nothing. -/
theorem filterMap_percent?_updates (p : OverallProgress) (us : List Action) :
    (allTold total p (us.map .update)).filterMap Event.percent? = [] := by
  induction us generalizing p with
  | nil => rfl
  | cons u rest ih =>
    rw [List.map_cons, allTold, List.filterMap_append, ih]
    cases h : u.error? <;> simp [told?, h, Event.percent?]

/-- **All that is offered is offered after a batch**, and at most once. -/
theorem filterMap_percent?_allTold (p : OverallProgress) (batches : List (List Action)) :
    (allTold total p (PollEvent.ofBatches batches)).filterMap Event.percent? =
      (offersFrom total p batches).reduceOption := by
  induction batches generalizing p with
  | nil => rfl
  | cons us rest ih =>
    have hbatch : PollEvent.ofBatches (us :: rest) =
        us.map .update ++ .pollDone :: PollEvent.ofBatches rest := by
      rw [PollEvent.ofBatches, List.flatMap_cons, List.append_assoc]
      rfl
    rw [hbatch, allTold_append, List.filterMap_append, filterMap_percent?_updates,
      foldl_next_updates, allTold, List.filterMap_append, ih, offersFrom, List.nil_append]
    cases h : (p.recordAll us).news? total <;> simp [told?, h, Event.percent?]

/-! ## What has been recorded -/

/-- What has been recorded of actions, after answers that track them. -/
structure Recorded (actions : List Action) (batches : List (List Action)) (p : OverallProgress) :
    Prop where
  /-- nothing else has been recorded -/
  covers : p.Covers (idSet actions)
  /-- who does not run any more is through -/
  finished : ∀ id ∈ idSet actions, id ∉ runningAfter actions batches →
    p.percentOf id = 100
  /-- who runs has come as far as was reported last, if anything was -/
  running : ∀ id ∈ runningAfter actions batches, p.percentOf id = 0 ∨
    ∃ us ∈ batches, ∃ u ∈ us, u.id = id ∧ u.isRunning ∧ p.percentOf id = u.progress.toNat

variable {actions : List Action} {batches : List (List Action)} {us : List Action}

/-- An offer changes nothing of this. -/
theorem Recorded.pollDone (h : Recorded actions batches p) :
    Recorded actions batches (p.next total .pollDone) :=
  ⟨⟨h.covers.nodup, h.covers.subset⟩, h.finished, h.running⟩

theorem toNat_percent_of_isFinished {a : Action} (h : a.isFinished) : a.percent.toNat = 100 := by
  rw [Action.percent, if_neg (Action.isFinished_iff.1 h)]
  rfl

theorem percent_of_isRunning {a : Action} (h : a.isRunning) : a.percent = a.progress :=
  if_pos h

/-- At first it is recorded who is finished. -/
theorem recorded_first (hnodup : (actions.map (·.id)).Nodup) :
    Recorded actions [] (start.recordAll (actions.filter (·.isFinished))) where
  covers := by
    refine (covers_start _).recordAll fun a ha => ?_
    exact Polling.mem_idSet.2 ⟨a, List.mem_of_mem_filter ha, rfl⟩
  finished := by
    intro id hid hnot
    obtain ⟨a, ha, rfl⟩ := Polling.mem_idSet.1 hid
    have hfinished : a.isFinished := by
      refine Action.isFinished_iff.2 fun hrunning => hnot ?_
      exact Finset.mem_sdiff.2 ⟨Polling.mem_trackedIds.2 ⟨a, ha, hrunning, rfl⟩,
        Finset.notMem_empty _⟩
    have hsub : ((actions.filter (·.isFinished)).map (·.id)).Nodup :=
      hnodup.sublist (List.filter_sublist.map _)
    rw [percentOf_recordAll_of_mem start hsub (List.mem_filter.2 ⟨ha, hfinished⟩),
      toNat_percent_of_isFinished hfinished]
  running := by
    intro id hid
    obtain ⟨a, ha, hrunning, rfl⟩ := Polling.mem_trackedIds.1 (Finset.mem_sdiff.1 hid).1
    refine .inl (percentOf_recordAll_of_ne start fun b hb heq => ?_)
    -- ids are not repeated, so it would be both finished and running
    obtain ⟨hb, hfinished⟩ := List.mem_filter.1 hb
    obtain rfl := List.inj_on_of_nodup_map hnodup hb ha heq
    exact Action.isFinished_iff.1 hfinished hrunning

theorem mem_idSet_of_mem_runningAfter {id : Int} (h : id ∈ runningAfter actions batches) :
    id ∈ idSet actions := by
  obtain ⟨a, ha, -, heq⟩ := Polling.mem_trackedIds.1 (Polling.runningAfter_subset _ _ h)
  exact Polling.mem_idSet.2 ⟨a, ha, heq⟩

section Batch

variable (h : Recorded actions batches p)
  (hids : (us.map (·.id)).Perm (runningAfter actions batches).sort)
include hids

theorem mem_runningAfter_iff {id : Int} :
    id ∈ runningAfter actions batches ↔ ∃ u ∈ us, u.id = id := by
  rw [← Finset.mem_sort (· ≤ ·), ← hids.mem_iff, List.mem_map]

theorem nodup_of_perm_sort : (us.map (·.id)).Nodup := hids.nodup_iff.2 (Finset.sort_nodup _ _)

include h

/-- **A batch of those that run keeps the records true.** -/
theorem Recorded.recordAll : Recorded actions (batches ++ [us]) (p.recordAll us) where
  covers := by
    refine h.covers.recordAll fun u hu => ?_
    have hrem := (mem_runningAfter_iff hids).2 ⟨u, hu, rfl⟩
    exact mem_idSet_of_mem_runningAfter hrem
  finished := by
    intro id hid hnot
    rw [Polling.mem_runningAfter_concat, not_and, not_not] at hnot
    by_cases hrem : id ∈ runningAfter actions batches
    · -- the batch has shown it as finished
      obtain ⟨u, hu, hfinished, rfl⟩ := Polling.mem_finishedIds.1 (hnot hrem)
      rw [percentOf_recordAll_of_mem p (nodup_of_perm_sort hids) hu,
        toNat_percent_of_isFinished hfinished]
    · rw [percentOf_recordAll_of_ne p fun u hu heq =>
        hrem ((mem_runningAfter_iff hids).2 ⟨u, hu, heq⟩)]
      exact h.finished id hid hrem
  running := by
    intro id hid
    rw [Polling.mem_runningAfter_concat] at hid
    obtain ⟨u, hu, rfl⟩ := (mem_runningAfter_iff hids).1 hid.1
    have hrunning : u.isRunning = true := by
      by_contra hnot
      exact hid.2 (Polling.mem_finishedIds.2 ⟨u, hu, Action.isFinished_iff.2 hnot, rfl⟩)
    refine .inr ⟨us, List.mem_append_right _ (List.mem_singleton_self us), u, hu, rfl, hrunning, ?_⟩
    rw [percentOf_recordAll_of_mem p (nodup_of_perm_sort hids) hu, percent_of_isRunning hrunning]

end Batch

end OverallProgress

/-! ## Actions that do not fall behind -/

/-- The snapshots of running actions report no more than a hundred percent, and never less than an
earlier snapshot of the same action. -/
structure Steady (batches : List (List Action)) : Prop where
  le_hundred : ∀ us ∈ batches, ∀ u ∈ us, u.isRunning → u.progress ≤ 100
  ascending : batches.Pairwise fun us vs => ∀ u ∈ us, ∀ v ∈ vs, u.id = v.id → u.isRunning →
    v.isRunning → u.progress ≤ v.progress

theorem Steady.of_concat {batches : List (List Action)} {us : List Action}
    (h : Steady (batches ++ [us])) : Steady batches where
  le_hundred vs hvs := h.le_hundred vs (List.mem_append_left _ hvs)
  ascending := (List.pairwise_append.1 h.ascending).1

namespace OverallProgress

variable {total : UInt32} {p p' : OverallProgress} {actions : List Action}
  {batches : List (List Action)} {us : List Action}

/-- What has been recorded of running actions is no more than a hundred percent. -/
theorem Recorded.percentOf_le_hundred (h : Recorded actions batches p) (hsteady : Steady batches)
    {id : Int} (hid : id ∈ idSet actions) : p.percentOf id ≤ 100 := by
  by_cases hrem : id ∈ runningAfter actions batches
  · rcases h.running id hrem with hzero | ⟨us, hus, u, hu, -, hrunning, hpercent⟩
    · rw [hzero]
      exact Nat.zero_le _
    · rw [hpercent]
      exact UInt32.le_iff_toNat_le.1 (hsteady.le_hundred us hus u hu hrunning)
  · exact (h.finished id hid hrem).le

/-- **The snapshots of a batch do not fall behind the records.** -/
theorem Recorded.percentOf_le (h : Recorded actions batches p)
    (hids : (us.map (·.id)).Perm (runningAfter actions batches).sort)
    (hsteady : Steady (batches ++ [us])) {u : Action} (hu : u ∈ us) :
    p.percentOf u.id ≤ u.percent.toNat := by
  have hrem := (mem_runningAfter_iff hids).2 ⟨u, hu, rfl⟩
  by_cases hrunning : u.isRunning = true
  · rw [percent_of_isRunning hrunning]
    rcases h.running u.id hrem with hzero | ⟨vs, hvs, v, hv, hid, hvrunning, hpercent⟩
    · rw [hzero]
      exact Nat.zero_le _
    · rw [hpercent]
      have hpair := (List.pairwise_append.1 hsteady.ascending).2.2 vs hvs us
        (List.mem_singleton_self us)
      exact UInt32.le_iff_toNat_le.1 (hpair v hv u hu hid hvrunning hrunning)
  · rw [toNat_percent_of_isFinished (Action.isFinished_iff.2 hrunning)]
    exact h.percentOf_le_hundred hsteady.of_concat (mem_idSet_of_mem_runningAfter hrem)

/-! ## What has been offered -/

/-- These values have been offered, and the last offer is the average as it is now. -/
structure Offering (total : UInt32) (p : OverallProgress) (values : List UInt32) : Prop where
  average?_eq : p.average? total = some p.offered
  last_eq : values.getLast?.getD 0 = p.offered
  le_offered : ∀ x ∈ values, x ≤ p.offered
  bounds : ∀ x ∈ values, 1 ≤ x ∧ x ≤ 100
  ascending : values.Pairwise (· < ·)

/-- An average that is not worth an offer is the one that was offered last. -/
theorem offered_eq_of_news? {x : UInt32} (hx : p.average? total = some x)
    (h : p.news? total = none) (hle : p.offered ≤ x) : p.offered = x := by
  rw [news?, hx, Option.filter_some] at h
  split_ifs at h with hnews
  rw [decide_eq_true_eq, not_and, not_not] at hnews
  by_cases hzero : x = 0
  · rw [hzero] at hle ⊢
    exact UInt32.toNat_inj.1 (Nat.le_zero.1 (UInt32.le_iff_toNat_le.1 hle))
  · exact (hnews hzero).symm

/-- What is worth an offer is the average, if it has changed. -/
theorem average?_of_news? {x : UInt32} (h : p.news? total = some x) :
    p.average? total = some x ∧ x ≠ p.offered := by
  obtain ⟨haverage, hnews⟩ := Option.filter_eq_some_iff.1 h
  exact ⟨haverage, (of_decide_eq_true hnews).2⟩

variable {values : List UInt32}

/-- Without an offer nothing changes. -/
theorem Offering.same (h : Offering total p values) (hoffered : p'.offered = p.offered)
    (haverage : p'.average? total = some p'.offered) : Offering total p' values where
  average?_eq := haverage
  last_eq := h.last_eq.trans hoffered.symm
  le_offered x hx := hoffered ▸ h.le_offered x hx
  bounds := h.bounds
  ascending := h.ascending

/-- An offer that is more than the last one is more than all. -/
theorem Offering.concat (h : Offering total p values) {x : UInt32} (hlt : p.offered < x)
    (hbound : x ≤ 100) (hoffered : p'.offered = x) (haverage : p'.average? total = some x) :
    Offering total p' (values ++ [x]) := by
  have hbefore : ∀ y ∈ values, y < x := fun y hy =>
    UInt32.lt_of_le_of_lt (h.le_offered y hy) hlt
  have hpos : 1 ≤ x := by
    rw [UInt32.le_iff_toNat_le]
    exact Nat.lt_of_le_of_lt (Nat.zero_le _) (UInt32.lt_iff_toNat_lt.1 hlt)
  refine ⟨haverage.trans (congrArg some hoffered.symm), ?_, ?_, ?_, ?_⟩
  · rw [List.getLast?_concat, hoffered]
    rfl
  · intro y hy
    rw [hoffered]
    rcases List.mem_append.1 hy with hy | hy
    · exact UInt32.le_of_lt (hbefore y hy)
    · rw [List.mem_singleton.1 hy]
      exact UInt32.le_refl x
  · intro y hy
    rcases List.mem_append.1 hy with hy | hy
    · exact h.bounds y hy
    · rw [List.mem_singleton.1 hy]
      exact ⟨hpos, hbound⟩
  · refine List.pairwise_append.2 ⟨h.ascending, List.pairwise_singleton _ _, ?_⟩
    intro y hy z hz
    rw [List.mem_singleton.1 hz]
    exact hbefore y hy

/-- **An offer is more than the ones before it**, if the average has not become less. -/
theorem Offering.pollDone (h : Offering total p values) (hoffered : p'.offered = p.offered)
    {x : UInt32} (hx : p'.average? total = some x) (hle : p.offered ≤ x) (hbound : x ≤ 100) :
    Offering total (p'.next total .pollDone) (values ++ (p'.news? total).toList) := by
  have haverage : (p'.next total .pollDone).average? total = some x := hx
  rcases hn : p'.news? total with _ | y
  · have hnext : (p'.next total .pollDone).offered = p'.offered := by
      rw [next, hn]
      rfl
    have hsame : p'.offered = x := offered_eq_of_news? hx hn (hoffered ▸ hle)
    rw [Option.toList_none, List.append_nil]
    exact h.same (hnext.trans hoffered) (haverage.trans (congrArg some (hnext.trans hsame).symm))
  · have hnext : (p'.next total .pollDone).offered = y := by
      rw [next, hn]
      rfl
    obtain ⟨hy, hne⟩ := average?_of_news? hn
    obtain rfl : y = x := Option.some.inj (hy.symm.trans hx)
    have hlt : p.offered < y := UInt32.lt_of_le_of_ne hle (hoffered ▸ hne.symm)
    exact h.concat hlt hbound hnext haverage

/-! ## All batches -/

/-- Nothing has been offered at first. -/
theorem offering_start (total : UInt32) : Offering total start [] := by
  have hsum : start.sum? = some 0 := by rfl
  have hzero : start.average? total = some 0 := by
    rw [average?, hsum, Option.map_some]
    split_ifs
    · rfl
    · rw [UInt32.zero_div]
  have hnone (P : UInt32 → Prop) : ∀ x ∈ [], P x := fun x hx => absurd hx List.not_mem_nil
  exact ⟨hzero, rfl, hnone _, hnone _, List.Pairwise.nil⟩

section Watch

variable (hne : actions ≠ []) (hlen : actions.length < 42949673)
  (hnodup : (actions.map (·.id)).Nodup)

include hlen in
/-- The number of actions is a number of 32 bits. -/
theorem toNat_ofNat_length : (UInt32.ofNat actions.length).toNat = actions.length :=
  UInt32.toNat_ofNat_of_lt (hlen.trans (by decide))

include hne hlen in
theorem ofNat_length_ne_zero : UInt32.ofNat actions.length ≠ 0 := by
  intro h
  have hzero := congrArg UInt32.toNat h
  rw [toNat_ofNat_length hlen] at hzero
  exact hne (List.length_eq_zero_iff.1 hzero)

include hnodup in
theorem card_idSet : (idSet actions).card = actions.length := by
  rw [idSet, List.toFinset_card_of_nodup hnodup, List.length_map]

include hnodup in
theorem Recorded.sum_le (h : Recorded actions batches p) (hsteady : Steady batches) :
    ∑ id ∈ idSet actions, p.percentOf id ≤ actions.length * 100 := by
  rw [← card_idSet hnodup, ← smul_eq_mul]
  exact Finset.sum_le_card_nsmul _ _ _ fun id hid => h.percentOf_le_hundred hsteady hid

include hlen hnodup in
/-- The sum does not overflow. -/
theorem Recorded.sum_lt (h : Recorded actions batches p) (hsteady : Steady batches) :
    ∑ id ∈ idSet actions, p.percentOf id < 2 ^ 32 := by
  have hle := h.sum_le hnodup hsteady
  omega

include hne hlen hnodup

/-- There is an average, and it is a hundred at most. -/
theorem Recorded.exists_average? (h : Recorded actions batches p) (hsteady : Steady batches) :
    ∃ x, p.average? (UInt32.ofNat actions.length) = some x ∧ x ≤ 100 := by
  have haverage := h.covers.toNat_average? (h.sum_lt hlen hnodup hsteady)
    (ofNat_length_ne_zero hne hlen)
  obtain ⟨x, hx, hnat⟩ := Option.map_eq_some_iff.1 haverage
  refine ⟨x, hx, ?_⟩
  rw [UInt32.le_iff_toNat_le, hnat, toNat_ofNat_length hlen]
  exact Nat.div_le_of_le_mul (h.sum_le hnodup hsteady)

/-- **When no action runs any more, the average is a hundred.** -/
theorem Recorded.average?_eq (h : Recorded actions batches p) (hsteady : Steady batches)
    (hdone : runningAfter actions batches = ∅) :
    p.average? (UInt32.ofNat actions.length) = some 100 := by
  have hsum : ∑ id ∈ idSet actions, p.percentOf id = actions.length * 100 := by
    have hall : ∀ id ∈ idSet actions, p.percentOf id = 100 := fun id hid =>
      h.finished id hid (by rw [hdone]; exact Finset.notMem_empty id)
    rw [Finset.sum_congr rfl hall, Finset.sum_const, card_idSet hnodup, smul_eq_mul]
  have haverage := h.covers.toNat_average? (h.sum_lt hlen hnodup hsteady)
    (ofNat_length_ne_zero hne hlen)
  rw [toNat_ofNat_length hlen, hsum,
    Nat.mul_div_cancel_left 100 (List.length_pos_iff.2 hne)] at haverage
  obtain ⟨x, hx, hnat⟩ := Option.map_eq_some_iff.1 haverage
  rw [hx, UInt32.toNat_inj.1 (hnat.trans (by rfl : 100 = (100 : UInt32).toNat))]

/-- **What holds of every watch**: the records are true, and what is offered is ascending. -/
theorem progress_of_tracks (htracks : Tracks actions batches) (hsteady : Steady batches) :
    Recorded actions batches (afterBatches (UInt32.ofNat actions.length) start
        (actions.filter (·.isFinished) :: batches)) ∧
      Offering (UInt32.ofNat actions.length) (afterBatches (UInt32.ofNat actions.length) start
          (actions.filter (·.isFinished) :: batches))
        (offersFrom (UInt32.ofNat actions.length) start
          (actions.filter (·.isFinished) :: batches)).reduceOption := by
  -- by the batches, the latest one last
  induction htracks with
  | nil =>
    have hfirst := recorded_first hnodup
    obtain ⟨x, hx, hbound⟩ := hfirst.exists_average? hne hlen hnodup ⟨nofun, List.Pairwise.nil⟩
    have hle : start.offered ≤ x := UInt32.le_iff_toNat_le.2 (Nat.zero_le _)
    have hoffering := (offering_start (UInt32.ofNat actions.length)).pollDone
      (offered_recordAll start (actions.filter (·.isFinished))) hx hle hbound
    refine ⟨hfirst.pollDone, ?_⟩
    rw [← List.nil_append [actions.filter (·.isFinished)], reduceOption_offersFrom_concat]
    exact hoffering
  | @concat batches us htracks hids ih =>
    obtain ⟨hrecorded, hoffering⟩ := ih hsteady.of_concat
    rw [← List.cons_append, afterBatches_concat, reduceOption_offersFrom_concat]
    generalize afterBatches (UInt32.ofNat actions.length) start
      (actions.filter (·.isFinished) :: batches) = p at hrecorded hoffering ⊢
    have hnext := hrecorded.recordAll hids
    obtain ⟨x, hx, hbound⟩ := hnext.exists_average? hne hlen hnodup hsteady
    have hle : p.offered ≤ x :=
      average_le_average hrecorded.covers hnext.covers (hnext.sum_lt hlen hnodup hsteady)
        (percentOf_le_recordAll (nodup_of_perm_sort hids)
          fun u hu => hrecorded.percentOf_le hids hsteady hu)
        (ofNat_length_ne_zero hne hlen) hoffering.average?_eq hx
    exact ⟨hnext.pollDone, hoffering.pollDone (offered_recordAll p us) hx hle hbound⟩

end Watch

end OverallProgress

namespace Client

open OverallProgress (offersFrom)
open Polling (runningAfter)

variable (c : Client) (rounds : Nat) (l : Lifetime) (actions : List Action) (s : Session)

/-- **The percentages that a watch offers**, one after each batch at most. -/
theorem readBetween_percent? :
    s.readBetween Event.percent? (c.watchOverallProgress rounds l actions s).2 =
      (offersFrom (UInt32.ofNat actions.length) .start
        (actions.filter (·.isFinished) ::
          (c.watchLedger rounds l actions s).accepted)).reduceOption := by
  have hwait : Session.Reads Event.percent? _ s _ :=
    c.reads_overallWait rounds l actions s (fun _ => rfl) fun _ _ => rfl
  rw [(c.watchLedger_batched rounds l actions s).events_eq,
    OverallProgress.filterMap_percent?_allTold] at hwait
  rw [watchOverallProgress_apply]
  cases (c.overallWait rounds l actions s).1.result? with
  | some result =>
    have hend : Session.Reads Event.percent? [] (c.overallWait rounds l actions s).2
        ((c.overallWait rounds l actions s).2.noted (.finished result)) := .noted _ _
    exact (hwait.trans hend).readBetween_eq.trans (List.append_nil _)
  | none => exact hwait.readBetween_eq

variable {c rounds l actions s} in
/-- A watch that ends well ends after a whole batch, when no action runs on. -/
theorem watchLedger_of_ok (hok : (c.overallWait rounds l actions s).1.result? = some (.ok ())) :
    (c.watchLedger rounds l actions s).IsBetweenPolls ∧
      runningAfter actions (c.watchLedger rounds l actions s).accepted = ∅ := by
  have hwait := c.overallWait_ledger rounds l actions s
  generalize (c.overallWait rounds l actions s).1 = o at hwait hok
  cases hwait with
  | finished kept resting _ =>
    rw [resting.goesOn.accepted_eq]
    exact ⟨resting.between, resting.remaining_eq_empty⟩
  | outOfPolls => cases hok
  | ended _ ends =>
    cases o with
    | done p => exact absurd rfl ends.ne_done
    | failed e => cases hok
    | unfinished => cases hok

variable {c rounds l actions s} in
/-- When a poll is asked for, the values for the batches up to then have been offered. -/
theorem readBetween_percent?_of_fetch {earlier : Ledger Session PollCall}
    {e : Entry Session PollCall} (hpre : earlier ++ [e] <+: c.watchLedger rounds l actions s)
    (he : e.call.event? = none) :
    s.readBetween Event.percent? e.before =
      ((offersFrom (UInt32.ofNat actions.length) .start
        (actions.filter (·.isFinished) :: (c.watchLedger rounds l actions s).accepted)).take
          (earlier.accepted.length + 1)).reduceOption := by
  obtain ⟨hfits, -⟩ := (c.overallWait_ledger rounds l actions s).traced
  have hreports := (c.watchLedger_batched rounds l actions s).reports
  have hpre' : earlier <+: c.watchLedger rounds l actions s :=
    (List.prefix_append earlier [e]).trans hpre
  have hreads : Session.Reads Event.percent? _ s (earlier.last s) :=
    c.reads_last rounds l actions s (fun _ => rfl) (fun _ _ => rfl) (hfits.of_prefix hpre')
      (hreports.of_prefix hpre')
  obtain ⟨rest, hrest⟩ : earlier.accepted <+: (c.watchLedger rounds l actions s).accepted :=
    (hpre'.filterMap _).filterMap _
  rw [(hreports earlier e hpre).events_eq he, OverallProgress.filterMap_percent?_allTold] at hreads
  rw [(hfits earlier e hpre).1, hreads.readBetween_eq, ← hrest, ← List.cons_append,
    OverallProgress.offersFrom_append, List.take_left']
  rw [OverallProgress.length_offersFrom, List.length_cons]

/-- **What a watch offers through the channel of percentages.** Let there be actions to watch, less
than so many, with ids of their own; let the answers be faithful, and let no action fall behind.
Then a watch offers at most one value for the actions that are finished at first, and at most one
for each poll. They are percentages from one to a hundred, each more than the ones before it.
However the caller receives, the channel delivers some of them, and the first one among them; and if
the watch ends well, the last one is a hundred. -/
theorem watchOverallProgress_percents (hne : actions ≠ []) (hlen : actions.length < 42949673)
    (hnodup : (actions.map (·.id)).Nodup) (hf : (c.watchLedger rounds l actions s).Faithful)
    (hsteady : Steady (c.watchLedger rounds l actions s).accepted) :
    ∃ offers : List (Option UInt32),
      offers.length = (c.watchLedger rounds l actions s).accepted.length + 1 ∧
      (∀ (earlier : Ledger Session PollCall) (e : Entry Session PollCall) ids answer,
        earlier ++ [e] <+: c.watchLedger rounds l actions s → e.call = .fetch ids answer →
          s.readBetween Event.percent? e.before =
            (offers.take (earlier.accepted.length + 1)).reduceOption) ∧
      s.readBetween Event.percent? (c.watchOverallProgress rounds l actions s).2 =
        offers.reduceOption ∧
      (∀ x ∈ offers.reduceOption, 1 ≤ x ∧ x ≤ 100) ∧
      offers.reduceOption.Pairwise (· < ·) ∧
      Channel.DeliversFirst Delivery.progressRoom offers.reduceOption ∧
      ((c.overallWait rounds l actions s).1.result? = some (.ok ()) →
        offers.reduceOption.getLast? = some 100) := by
  have hwait := c.overallWait_ledger rounds l actions s
  obtain ⟨hrecorded, hoffering⟩ :=
    OverallProgress.progress_of_tracks hne hlen hnodup (hwait.traced.tracks hf) hsteady
  refine ⟨_, ?_, ?_, c.readBetween_percent? rounds l actions s, hoffering.bounds,
    hoffering.ascending, Channel.deliversFirst Nat.one_pos _, fun hok => ?_⟩
  · rw [OverallProgress.length_offersFrom, List.length_cons]
  · intro earlier e ids answer hpre hc
    exact readBetween_percent?_of_fetch hpre (by rw [hc]; rfl)
  · -- nothing is left to ask for, so the average is a hundred, and it has been offered
    obtain ⟨-, hdone⟩ := watchLedger_of_ok hok
    have hlast := hoffering.last_eq
    have haverage := hrecorded.average?_eq hne hlen hnodup hsteady hdone
    rw [Option.some.inj (hoffering.average?_eq.symm.trans haverage)] at hlast
    rcases hget : List.getLast? _ with _ | x
    · rw [hget] at hlast
      exact absurd hlast (by decide)
    · rw [hget] at hlast
      exact congrArg some hlast

end Client

namespace Loopback

/-- Two actions that run. -/
def pair : List Action := [snapshot 1 .running, snapshot 2 .running]

/-- A session in which the first action comes half the way, then the second one does and the first
one succeeds, and then the second one succeeds as well. -/
def pairSession : Session :=
  session
    [listing [{ snapshot 1 .running with progress := 50 }, snapshot 2 .running],
      listing [snapshot 1 .success, { snapshot 2 .running with progress := 50 }],
      listing [snapshot 2 .success]]

/-- A watch of the two offers a value for each of three polls, up to a hundred. -/
theorem watchOverallProgress_percents_pair :
    pairSession.readBetween Event.percent?
        (client.watchOverallProgress 3 .unbounded pair pairSession).2 = [25, 75, 100] ∧
    List.Pairwise (· < ·) (pairSession.readBetween Event.percent?
      (client.watchOverallProgress 3 .unbounded pair pairSession).2) ∧
    (pairSession.readBetween Event.percent?
      (client.watchOverallProgress 3 .unbounded pair pairSession).2).getLast? = some 100 := by
  have haccepted : (client.watchLedger 3 .unbounded pair pairSession).accepted =
      [[{ snapshot 1 .running with progress := 50 }, snapshot 2 .running],
        [snapshot 1 .success, { snapshot 2 .running with progress := 50 }],
        [snapshot 2 .success]] := by
    decide +kernel
  have hsteady : Steady (client.watchLedger 3 .unbounded pair pairSession).accepted := by
    rw [haccepted]
    exact ⟨by decide, by decide⟩
  obtain ⟨offers, -, -, hpercents, -, hascending, -, hlast⟩ :=
    client.watchOverallProgress_percents 3 .unbounded pair pairSession (by decide) (by decide)
      (by decide) (by decide +kernel) hsteady
  have hdone : (client.overallWait 3 .unbounded pair pairSession).1.value?.isSome := by
    decide +kernel
  obtain ⟨p, hp⟩ := Option.isSome_iff_exists.1 hdone
  rw [← hpercents] at hascending hlast
  refine ⟨?_, hascending, hlast ?_⟩
  · rw [Client.readBetween_percent?, haccepted]
    decide +kernel
  · rw [Outcome.value?_eq_some.1 hp]
    rfl

end Loopback

end CloudClient
