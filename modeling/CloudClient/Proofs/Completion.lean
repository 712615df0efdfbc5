import CloudClient.Client.Actions
import CloudClient.Proofs.Pauses
import CloudClient.Proofs.PollLoop
import Mathlib.Order.Bounds.Basic

/-!
# When a wait is over

A wait for actions is over after *the first poll by which every running one has been seen as
finished*. The answers may be as odd as they like, as long as each of them has the right number of
snapshots: ids may be repeated, foreign or left out.

* `AllSeen` — the condition, on the answers alone. It holds exactly if no id remains
  (`Ledger.Brings.remaining_eq_empty`).
* `EndOfWait.not_endsWith` — when nothing goes wrong, no call ends the wait, so it ends between two
  polls: because no id remains, or because of the bound on the polls.
* `EndOfWait.done_iff` — hence the number of polls of a wait that is over is the least one with
  `AllSeen`.
-/

namespace CloudClient

/-! ## Answers of the right length -/

/-- Have the first `k` answers shown all running ones among actions as finished? -/
def AllSeen (actions : List Action) (answers : Nat → List Action) (k : Nat) : Prop :=
  ∀ a ∈ actions, a.isRunning → ∃ j < k, ∃ u ∈ answers j, u.id = a.id ∧ u.isFinished

instance (actions : List Action) (answers : Nat → List Action) (k : Nat) :
    Decidable (AllSeen actions answers k) :=
  inferInstanceAs (Decidable (∀ a ∈ actions, a.isRunning →
    ∃ j < k, ∃ u ∈ answers j, u.id = a.id ∧ u.isFinished))

namespace Ledger

variable {σ : Type}

/-- Do the polls bring these answers in turn, each with as many snapshots as were asked for? -/
def Brings (es : Ledger σ PollCall) (answers : Nat → List Action) : Prop :=
  ∀ j (h : j < es.polls.length), es.polls[j].2.value? = some (answers j) ∧
    (answers j).length = es.polls[j].1.length

instance (es : Ledger σ PollCall) (answers : Nat → List Action) : Decidable (es.Brings answers) :=
  inferInstanceAs (Decidable (∀ j (h : j < es.polls.length),
    es.polls[j].2.value? = some (answers j) ∧ (answers j).length = es.polls[j].1.length))

namespace Brings

variable {es : Ledger σ PollCall} {answers : Nat → List Action}

theorem of_getElem? (h : es.Brings answers) {j : Nat} {poll : List Int × Outcome (List Action)}
    (hj : es.polls[j]? = some poll) :
    poll.2.value? = some (answers j) ∧ (answers j).length = poll.1.length := by
  obtain ⟨hlt, rfl⟩ := List.getElem?_eq_some_iff.1 hj
  exact h j hlt

/-- The answers to the first polls. -/
theorem of_polls_take (h : es.Brings answers) {earlier : Ledger σ PollCall} {k : Nat}
    (hpolls : earlier.polls = es.polls.take k) : earlier.Brings answers := by
  intro j hj
  have hin : (es.polls.take k)[j]? = some earlier.polls[j] := by
    rw [← hpolls, List.getElem?_eq_getElem hj]
  rw [List.getElem?_take] at hin
  split_ifs at hin
  exact h.of_getElem? hin

theorem answers_eq (h : es.Brings answers) :
    es.answers = (List.range es.polls.length).map answers := by
  rw [Ledger.answers]
  have hvalue : ∀ j poll, es.polls[j]? = some poll → poll.2.value? = some (answers j) :=
    fun j poll hj => (h.of_getElem? hj).1
  -- from here on only the polls count
  clear h
  generalize es.polls = polls at hvalue ⊢
  induction polls using List.reverseRecOn with
  | nil => rfl
  | append_singleton polls poll ih =>
    have hlast : poll.2.value? = some (answers polls.length) := hvalue _ _ (by simp)
    have hinit : ∀ j q, polls[j]? = some q → q.2.value? = some (answers j) := by
      intro j q hq
      have hlt := (List.getElem?_eq_some_iff.1 hq).1
      exact hvalue j q (by rwa [List.getElem?_append_left hlt])
    rw [List.filterMap_append, ih hinit, List.length_append, List.length_singleton,
      List.range_succ, List.map_append]
    simp [hlast]

/-- **No id remains exactly if all were seen as finished.** -/
theorem remaining_eq_empty (h : es.Brings answers) (actions : List Action) :
    es.remaining actions = ∅ ↔ AllSeen actions answers es.polls.length := by
  rw [Ledger.remaining, h.answers_eq, Finset.sdiff_eq_empty_iff_subset]
  constructor
  · intro hsub a ha hrunning
    obtain ⟨u, hu, hfin, hid⟩ := Polling.mem_finishedIds.1
      (hsub (Polling.mem_trackedIds.2 ⟨a, ha, hrunning, rfl⟩))
    obtain ⟨us, hus, hu⟩ := List.mem_flatten.1 hu
    obtain ⟨j, hj, rfl⟩ := List.mem_map.1 hus
    exact ⟨j, List.mem_range.1 hj, u, hu, hid, hfin⟩
  · intro hall id hid
    obtain ⟨a, ha, hrunning, rfl⟩ := Polling.mem_trackedIds.1 hid
    obtain ⟨j, hj, u, hu, hid, hfin⟩ := hall a ha hrunning
    refine Polling.mem_finishedIds.2 ⟨u, List.mem_flatten.2 ⟨answers j, ?_, hu⟩, hfin, hid⟩
    exact List.mem_map.2 ⟨j, List.mem_range.2 hj, rfl⟩

end Brings

end Ledger

/-! ## The number of polls -/

namespace Polling

variable {σ τ : Type} {p : Polling σ} {report : Reporter σ τ} {actions : List Action} {start : σ}
  {es : Ledger σ PollCall} {s : σ}

/-- Before the last poll not all were seen. -/
theorem Traced.not_allSeen (h : Traced p report actions start es s) {answers : Nat → List Action}
    (hb : es.Brings answers) {k : Nat} (hk : k < es.polls.length) :
    ¬ AllSeen actions answers k := by
  obtain ⟨earlier, e, hpre, hcall, hlen, hpolls⟩ :=
    Ledger.exists_fetch_of_polls (List.getElem?_eq_getElem hk)
  obtain ⟨-, -, hfits⟩ := h.fits earlier e hpre
  rw [hcall] at hfits
  obtain ⟨-, hids, hne, -⟩ := hfits
  rw [← hlen, ← (hb.of_polls_take hpolls).remaining_eq_empty actions]
  intro hempty
  exact hne (by rw [hids, hempty, Finset.sort_empty])

/-- **When nothing goes wrong, no call ends a wait.** -/
theorem EndOfWait.not_endsWith {bound : Nat} {o : Outcome τ}
    (h : EndOfWait p report actions start bound o es s) {answers : Nat → List Action}
    (hb : es.Brings answers) (hreport : ∀ kept event s, (report kept event s).1.ended = .done ())
    (hpause : ∀ number s₀, (p.pause number s₀).2 = s → (p.pause number s₀).1 = .done ()) :
    ¬ es.EndsWith o.ended := by
  rintro ⟨prior, e, rfl, hends⟩
  -- it would be the last call, and no kind of call can end the wait
  obtain ⟨-, -, hfits⟩ := h.traced.fits prior e (List.prefix_refl _)
  have hlast : e.after = s := by
    rw [← h.traced.last, Ledger.last_concat]
  cases hc : e.call with
  | pause number ended =>
    rw [hc] at hfits hends
    have hdone := hpause number e.before (by rw [hfits.1, hlast])
    rw [hfits.1] at hdone
    exact hends.2 (hends.1.symm.trans hdone)
  | fetch ids answer =>
    rw [hc] at hends
    have hin : (Ledger.polls (prior ++ [e]))[prior.polls.length]? = some (ids, answer) := by
      rw [Ledger.polls_concat, hc]
      simp [PollCall.fetch?]
    obtain ⟨hvalue, hlen⟩ := hb.of_getElem? hin
    rcases hends with ⟨hended, hne⟩ | ⟨updates, rfl, hne, -⟩
    · cases answer with
      | done us => exact hne hended.symm
      | failed e => cases hvalue
      | unfinished => cases hvalue
    · obtain rfl : updates = answers _ := Option.some.inj hvalue
      exact hne hlen
  | report event ended =>
    rw [hc] at hfits hends
    obtain ⟨kept, hrep, -⟩ := hfits
    exact hends.2 (hends.1.symm.trans (hrep.symm.trans (hreport kept event e.before)))

/-- **A wait is over after the least number of polls by which all were seen.** -/
theorem EndOfWait.done_iff {bound : Nat} {o : Outcome τ}
    (h : EndOfWait p report actions start bound o es s) {answers : Nat → List Action}
    (hb : es.Brings answers) (hends : ¬ es.EndsWith o.ended) (k : Nat) :
    ((∃ kept, o = .done kept) ∧ es.polls.length = k) ↔
      k ≤ bound ∧ IsLeast {k | AllSeen actions answers k} k := by
  -- however the wait has ended, it has made no poll too many
  have hleast : ∀ n, AllSeen actions answers n → es.polls.length ≤ n := by
    intro n hn
    by_contra hlt
    exact h.traced.not_allSeen hb (not_le.1 hlt) hn
  cases h with
  | finished kept resting le_bound =>
    have hseen := (hb.remaining_eq_empty actions).1 resting.remaining_eq_empty
    constructor
    · rintro ⟨-, rfl⟩
      exact ⟨resting.number_eq.trans_le le_bound, hseen, hleast⟩
    · rintro ⟨-, hk, hmin⟩
      exact ⟨⟨kept, rfl⟩, (hleast k hk).antisymm (hmin hseen)⟩
  | outOfPolls resting left =>
    constructor
    · rintro ⟨⟨kept, h⟩, -⟩
      cases h
    · rintro ⟨hle, hk, -⟩
      obtain rfl : es.polls.length = k := (hleast k hk).antisymm (hle.trans resting.number_eq.ge)
      have hempty := (hb.remaining_eq_empty actions).2 hk
      exact absurd hempty (resting.remaining_nonempty left).ne_empty
  | ended _ ends => exact absurd ends hends

/-! ## What was reported -/

/-- **When a wait is over, every action was reported as finished.** -/
theorem Resting.exists_update {number : Nat}
    (h : Resting p report actions start es number [] s) {a : Action} (ha : a ∈ actions) :
    ∃ u ∈ es.updates, u.id = a.id ∧ u.isFinished ∧ (u = a ∨ ∃ us ∈ es.answers, u ∈ us) := by
  rw [h.updates_eq]
  by_cases hrunning : a.isRunning
  · have hin := Finset.sdiff_eq_empty_iff_subset.1 h.remaining_eq_empty
      (mem_trackedIds.2 ⟨a, ha, hrunning, rfl⟩)
    obtain ⟨u, hu, hfin, hid⟩ := mem_finishedIds.1 hin
    obtain ⟨us, hus, hmem⟩ := List.mem_flatten.1 hu
    exact ⟨u, List.mem_append_right _ hu, hid, hfin, .inr ⟨us, hus, hmem⟩⟩
  · have hfin : a.isFinished := Action.isFinished_iff.2 hrunning
    exact ⟨a, List.mem_append_left _ (List.mem_filter.2 ⟨ha, hfin⟩), rfl, hfin, .inl rfl⟩

/-- No report of a snapshot has failed in a wait that goes on. -/
theorem Resting.reported {number : Nat} {running : List Int}
    (h : Resting p report actions start es number running s) {u : Action} (hu : u ∈ es.updates) :
    ∃ kept s₀, (report kept (.update u) s₀).1.ended = .done () := by
  obtain ⟨e, he, hcall⟩ := List.mem_filterMap.1 hu
  obtain ⟨earlier, -, -, hfits⟩ := h.fits.of_mem he
  have hgo := h.goesOn e he
  cases hc : e.call with
  | pause number ended => simp [hc, PollCall.update?] at hcall
  | fetch ids answer => simp [hc, PollCall.update?] at hcall
  | report event ended =>
    rw [hc] at hfits hgo
    obtain ⟨kept, hrep, -⟩ := hfits
    cases event with
    | pollDone => simp [hc, PollCall.update?] at hcall
    | update a =>
      obtain rfl : a = u := by simpa [hc, PollCall.update?] using hcall
      exact ⟨kept, e.before, hrep.trans hgo⟩

end Polling

end CloudClient
