import CloudClient.Proofs.ClientWait

/-!
# Missing actions

An answer should have a snapshot of every action that was asked for. If there is none of some
action, it is gone, and the wait should end with the ids of those that are gone.

But a wait does not look for the ids that were asked for: it *counts* the snapshots. If the count is
wrong the wait ends, and only then are the missing ids looked for. So an answer is treated as it
should be only if its count is right exactly when no id is missing (`detects_iff`). Repeated and
foreign ids can break this in both directions: they may make up for a missing id, or they may spoil
the count when none is missing. Answers without them cannot (`detects_of_nodup`).
-/

namespace CloudClient.Polling

/-- These are the ids, in ascending order, of which there is no snapshot; there is one at least. -/
structure Missing (ids : List Int) (updates : List Action) (gone : List Int) : Prop where
  /-- some id is missing -/
  ne_nil : gone ≠ []
  /-- the ids are ascending -/
  ascending : gone.Pairwise (· < ·)
  /-- they are those that are missing -/
  mem_iff : ∀ id, id ∈ gone ↔ id ∈ ids ∧ ∀ u ∈ updates, u.id ≠ id

theorem missing_iff {s : Finset Int} {updates : List Action} {gone : List Int} :
    Missing s.sort updates gone ↔
      (s \ idSet updates).Nonempty ∧ gone = (s \ idSet updates).sort := by
  have hmem : ∀ id, id ∈ s \ idSet updates ↔ id ∈ s.sort ∧ ∀ u ∈ updates, u.id ≠ id := by
    intro id
    simp
  constructor
  · rintro ⟨hne, hasc, hgone⟩
    have heq := eq_sort_of_ascending hasc fun id => (hgone id).trans (hmem id).symm
    refine ⟨?_, heq⟩
    rw [Finset.nonempty_iff_ne_empty]
    intro hempty
    exact hne (by rw [heq, hempty, Finset.sort_empty])
  · rintro ⟨⟨id, hid⟩, rfl⟩
    refine ⟨List.ne_nil_of_mem ((Finset.mem_sort _).2 hid), ascending_sort _, fun id => ?_⟩
    rw [Finset.mem_sort, hmem]

variable {σ τ : Type} (rounds : Nat) (p : Polling σ) (report : Reporter σ τ) (kept : τ)
  (actions : List Action) (start : σ)

/-- Does the wait end right after these calls, because the actions with these ids are gone? -/
def EndsMissing (es : Ledger σ PollCall) (gone : List Int) : Prop :=
  ledger rounds p report kept actions start = es ∧
    (poll rounds p report kept actions start).1 = .failed (.actionsNotFound gone)

variable {rounds p report kept actions start} {earlier : Ledger σ PollCall}
  {e : Entry σ PollCall} {ids : List Int} {updates : List Action}

/-- **The count decides**: an answer ends the wait exactly if it has too many snapshots or too
few. -/
theorem endsMissing_iff (hpre : earlier ++ [e] <+: ledger rounds p report kept actions start)
    (hcall : e.call = .fetch ids (.done updates)) (gone : List Int) :
    EndsMissing rounds p report kept actions start (earlier ++ [e]) gone ↔
      updates.length ≠ ids.length ∧ gone = missingIds ids updates := by
  have hends := poll_ledger p report actions start rounds kept
  constructor
  · rintro ⟨hes, hout⟩
    rw [hes, hout] at hends
    cases hends with
    | ended _ ends =>
      obtain ⟨prior, e', heq, hend⟩ := ends
      obtain ⟨-, rfl⟩ := List.append_singleton_inj.1 heq
      rw [hcall] at hend
      rcases hend with ⟨h, -⟩ | ⟨updates', h, hne, hgone⟩
      · cases h
      · cases h
        cases hgone
        exact ⟨hne, rfl⟩
  · rintro ⟨hne, rfl⟩
    have hgo : ¬ e.call.GoesOn := by
      rw [hcall]
      rintro ⟨updates', h, hlen⟩
      cases h
      exact hne hlen
    -- so it is the last call, and the wait has ended as this call says
    refine ⟨hends.traced.eq_of_not_goesOn hpre hgo, ?_⟩
    have hend := hends.ends_of_not_goesOn hpre hgo
    rw [hcall] at hend
    rcases hend with ⟨h, hdone⟩ | ⟨updates', h, -, hgone⟩
    · exact absurd h.symm hdone
    · cases h
      exact Outcome.ended_eq_failed.1 hgone

/-- The ids that a poll asks for are those of a set. -/
theorem ids_eq_sort (hpre : earlier ++ [e] <+: ledger rounds p report kept actions start)
    (hcall : e.call = .fetch ids (.done updates)) : ids = (earlier.remaining actions).sort := by
  obtain ⟨-, -, hfits⟩ :=
    (poll_ledger p report actions start rounds kept).traced.fits earlier e hpre
  rw [hcall] at hfits
  exact hfits.2.1

/-- **When missing actions are detected as they should be.** That a wait ends with an answer exactly
if there are missing ids, and with just these, is true of those answers whose count is right exactly
when no id is missing. -/
theorem detects_iff (hpre : earlier ++ [e] <+: ledger rounds p report kept actions start)
    (hcall : e.call = .fetch ids (.done updates)) :
    (∀ gone, EndsMissing rounds p report kept actions start (earlier ++ [e]) gone ↔
        Missing ids updates gone) ↔
      (updates.length = ids.length ↔ ∀ id ∈ ids, ∃ u ∈ updates, u.id = id) := by
  have hends := endsMissing_iff hpre hcall
  obtain rfl := ids_eq_sort hpre hcall
  have hall : (∀ id ∈ (earlier.remaining actions).sort, ∃ u ∈ updates, u.id = id) ↔
      ¬ (earlier.remaining actions \ idSet updates).Nonempty := by
    rw [Finset.not_nonempty_iff_eq_empty, Finset.sdiff_eq_empty_iff_subset]
    simp [Finset.subset_iff]
  rw [hall]
  constructor
  · intro h
    have hgone := (hends (earlier.remaining actions \ idSet updates).sort).symm.trans
      ((h _).trans missing_iff)
    rw [missingIds_sort, and_iff_left rfl, and_iff_left rfl] at hgone
    exact not_iff_not.1 (hgone.trans not_not.symm)
  · intro h gone
    rw [hends, missing_iff, missingIds_sort, ne_eq, h, not_not]

/-- **Answers without repeated and foreign ids are treated as they should be.** -/
theorem detects_of_nodup (hpre : earlier ++ [e] <+: ledger rounds p report kept actions start)
    (hcall : e.call = .fetch ids (.done updates)) (hnodup : (updates.map (·.id)).Nodup)
    (hsub : ∀ u ∈ updates, u.id ∈ ids) (gone : List Int) :
    EndsMissing rounds p report kept actions start (earlier ++ [e]) gone ↔
      Missing ids updates gone := by
  have hends := endsMissing_iff hpre hcall gone
  obtain rfl := ids_eq_sort hpre hcall
  -- there are as many snapshots as ids of snapshots, and these are among the ids asked for
  have hcard : (idSet updates).card = updates.length := by
    rw [idSet, List.toFinset_card_of_nodup hnodup, List.length_map]
  have hsubset : idSet updates ⊆ earlier.remaining actions := by
    intro id hid
    obtain ⟨u, hu, rfl⟩ := mem_idSet.1 hid
    exact (Finset.mem_sort _).1 (hsub u hu)
  have hlen : updates.length ≠ (earlier.remaining actions).sort.length ↔
      (earlier.remaining actions \ idSet updates).Nonempty := by
    rw [Finset.length_sort, ← hcard, Finset.nonempty_iff_ne_empty, ne_eq, ne_eq,
      Finset.sdiff_eq_empty_iff_subset]
    refine not_congr ⟨fun heq => ?_, fun hle => ?_⟩
    · exact (Finset.eq_of_subset_of_card_le hsubset heq.ge).ge
    · exact congrArg Finset.card (hsubset.antisymm hle)
  rw [hends, missing_iff, missingIds_sort, hlen]

end CloudClient.Polling

namespace CloudClient.Loopback

open Polling

/-- The session with one answer, which leaves out one of two actions. -/
def shortSession : Session := session [listing [snapshot 1 .success]]

/-- The calls of a wait with this answer. -/
abbrev shortCalls : Ledger Session PollCall :=
  client.waitLedger 2 .unbounded count 0 tracked shortSession

/-- One snapshot of two is a wrong count, and so the missing action is detected. -/
theorem detects_iff_short :
    ∃ (earlier : Ledger Session PollCall) (e : Entry Session PollCall),
      earlier ++ [e] <+: shortCalls ∧ e.call = .fetch [1, 2] (.done [snapshot 1 .success]) ∧
      ∀ gone, EndsMissing 2 (client.polling 2 .unbounded) (.ofUpdates count) 0 tracked shortSession
          (earlier ++ [e]) gone ↔ Missing [1, 2] [snapshot 1 .success] gone := by
  have hpoll : shortCalls.polls[0]?.map (fun poll => (poll.1, poll.2.value?)) =
      some ([1, 2], some [snapshot 1 .success]) := by
    decide +kernel
  obtain ⟨earlier, e, hpre, hcall, -⟩ := Ledger.exists_fetch_of_value? hpoll
  exact ⟨earlier, e, hpre, hcall, (detects_iff hpre hcall).2 (by decide)⟩

/-- **Not every missing action is detected**: a snapshot that comes twice makes up for one that is
missing, and the wait goes on as if nothing were. -/
theorem not_detects_uneven :
    ¬ ∀ (earlier : Ledger Session PollCall) (e : Entry Session PollCall) (ids : List Int)
      (updates : List Action),
      earlier ++ [e] <+: unevenCalls → e.call = .fetch ids (.done updates) →
      ∀ gone, EndsMissing 2 (client.polling 2 .unbounded) (.ofUpdates count) 0 tracked unevenSession
        (earlier ++ [e]) gone ↔ Missing ids updates gone := by
  intro h
  have hpoll : unevenCalls.polls[0]?.map (fun poll => (poll.1, poll.2.value?)) =
      some ([1, 2], some (uneven 0)) := by
    decide +kernel
  obtain ⟨earlier, e, hpre, hcall, -⟩ := Ledger.exists_fetch_of_value? hpoll
  have hmissing : Missing [1, 2] (uneven 0) [2] := by
    refine ⟨by decide, by decide, fun id => ?_⟩
    simp [uneven, snapshot]
    omega
  obtain ⟨-, hout⟩ := (h earlier e _ _ hpre hcall [2]).2 hmissing
  have hdone : (client.waitReporting 2 .unbounded count 0 tracked unevenSession).1.value? =
      some 4 := by
    decide +kernel
  rw [Client.waitReporting, hout] at hdone
  cases hdone

end CloudClient.Loopback
