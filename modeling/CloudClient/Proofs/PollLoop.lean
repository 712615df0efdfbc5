import CloudClient.Proofs.PollLedger

/-!
# The invariant of the poll loop

Between two polls a wait is **at rest**: its list is the sorted list of the tracked ids that no
answer has shown as finished, its counter is the number of polls that were made, all that the
answers brought was reported, and the last call was the report of the end of a poll. This is
`Resting`, and it is stated on the ledger, so it speaks of the whole history of answers.

* A poll keeps `Resting` (`once_ledger`), or else its last call ends the wait.
* So a whole wait ends at rest, or its last call says why it has ended (`poll_ledger`).

`Fits` says what the *earlier* calls of a wait imply for the *next* one. It holds of every call of
every wait, however the wait ends.
-/

namespace CloudClient.Polling

variable {σ τ : Type} (p : Polling σ) (report : Reporter σ τ) (actions : List Action) (start : σ)

/-- What holds of a call of a wait, given the calls before it. -/
def Fits (earlier : Ledger σ PollCall) (e : Entry σ PollCall) : Prop :=
  e.before = earlier.last start ∧ earlier.GoesOn ∧
    match e.call with
    | .pause number ended =>
      p.pause number e.before = (ended, e.after) ∧ number = earlier.polls.length ∧
        earlier.IsBetweenPolls ∧ (earlier.remaining actions).Nonempty
    | .fetch ids answer =>
      p.fetch ids e.before = (answer, e.after) ∧ ids = (earlier.remaining actions).sort ∧
        ids ≠ [] ∧ ∃ (prior : Ledger σ PollCall) (e' : Entry σ PollCall),
          earlier = prior ++ [e'] ∧ e'.call = .pause prior.polls.length (.done ())
    | .report event ended =>
      ∃ kept, (report kept event e.before).1.ended = ended ∧
        (report kept event e.before).2 = e.after

/-- The ledger of a wait that has come to the state `s`. -/
structure Traced (es : Ledger σ PollCall) (s : σ) : Prop where
  /-- every call fits -/
  fits : es.Each (Fits p report actions start)
  /-- the last call has led to the state -/
  last : es.last start = s

/-- A wait between two polls, with the list and the counter of the loop. -/
structure Resting (es : Ledger σ PollCall) (number : Nat) (running : List Int) (s : σ) : Prop
    extends Traced p report actions start es s where
  /-- no call has ended the wait -/
  goesOn : es.GoesOn
  /-- the last poll is over -/
  between : es.IsBetweenPolls
  /-- the counter is the number of polls -/
  number_eq : es.polls.length = number
  /-- the list has the remaining ids -/
  running_eq : running = (es.remaining actions).sort
  /-- everything was reported, in order -/
  updates_eq : es.updates = actions.filter (·.isFinished) ++ es.answers.flatten

variable {p report actions start}

theorem Traced.concat {es : Ledger σ PollCall} {s : σ} (h : Traced p report actions start es s)
    {e : Entry σ PollCall} (he : Fits p report actions start es e) :
    Traced p report actions start (es ++ [e]) e.after :=
  ⟨h.fits.concat he, Ledger.last_concat _ _ _⟩

/-! ## Reports -/

/-- The entry of a report. -/
abbrev reportEntry (report : Reporter σ τ) (kept : τ) (event : PollEvent) (s : σ) :
    Entry σ PollCall :=
  ⟨.report event (report kept event s).1.ended, s, (report kept event s).2⟩

theorem Traced.reported {es : Ledger σ PollCall} {s : σ} (h : Traced p report actions start es s)
    (hgo : es.GoesOn) (kept : τ) (event : PollEvent) :
    Traced p report actions start (es ++ [reportEntry report kept event s])
      (report kept event s).2 :=
  h.concat ⟨h.last.symm, hgo, kept, rfl, rfl⟩

/-- **Reports in turn** are either all made, or the last one ends the wait. -/
theorem reportAll_ledger {us : List Action} {kept : τ} {es : Ledger σ PollCall} {s : σ}
    (h : Traced p report actions start es s) (hgo : es.GoesOn) {o : Outcome τ} {s' : σ}
    {es' : Ledger σ PollCall}
    (hr : reportAll report.entered kept us (s, es) = (o, s', es')) :
    Traced p report actions start es' s' ∧
      (((∃ kept', o = .done kept') ∧ es'.GoesOn ∧ es'.polls = es.polls ∧
          es'.updates = es.updates ++ us) ∨
        (o.ended ≠ .done () ∧ es'.EndsWith o.ended)) := by
  -- by the snapshots: after each report there is either another one, or it was the last call
  induction us generalizing kept es s with
  | nil =>
    rw [reportAll, Task.pure_apply, Prod.mk.injEq, Prod.mk.injEq] at hr
    obtain ⟨rfl, rfl, rfl⟩ := hr
    exact ⟨h, .inl ⟨⟨kept, rfl⟩, hgo, rfl, by simp⟩⟩
  | cons a rest ih =>
    have ht := h.reported hgo kept (.update a)
    rcases Task.entered_bind_inv hr with ⟨kept', s₁, h₁, hr⟩ | ⟨o', ho, hne, hr⟩
    · rw [reportEntry, h₁] at ht
      have hgo' : Ledger.GoesOn (es ++ [⟨.report (.update a) (.done ()), s, s₁⟩]) :=
        Ledger.goesOn_concat.2 ⟨hgo, rfl⟩
      obtain ⟨ht', ⟨hdone, hgoes, hpolls, hup⟩ | hend⟩ := ih ht hgo' hr
      · refine ⟨ht', .inl ⟨hdone, hgoes, ?_, ?_⟩⟩
        · rw [hpolls, Ledger.polls_concat]
          simp [PollCall.fetch?]
        · rw [hup, Ledger.updates_concat]
          simp [PollCall.update?]
      · exact ⟨ht', .inr hend⟩
    · rw [Prod.mk.injEq, Prod.mk.injEq] at hr
      obtain ⟨rfl, rfl, rfl⟩ := hr
      exact ⟨ht, .inr ⟨hne, es, _, rfl, ho.symm, hne⟩⟩

/-- **Inversion for the reports of a poll**: after all of them and the report of its end the wait
goes on, or the last report ends it. -/
theorem reports_inv {β : Type} {us : List Action} {kept : τ} {es : Ledger σ PollCall} {s : σ}
    {f : τ → Task (σ × Ledger σ PollCall) β} (h : Traced p report actions start es s)
    (hgo : es.GoesOn) {r : Outcome β × σ × Ledger σ PollCall}
    (hr : (reportAll report.entered kept us >>= fun kept =>
      report.entered kept .pollDone >>= f) (s, es) = r) :
    (∃ kept' s' es', f kept' (s', es') = r ∧ Traced p report actions start es' s' ∧ es'.GoesOn ∧
      es'.IsBetweenPolls ∧ es'.polls = es.polls ∧ es'.updates = es.updates ++ us) ∨
    ∃ o s' es', r = (o, s', es') ∧ Traced p report actions start es' s' ∧ es'.EndsWith o.ended := by
  rcases hra : reportAll report.entered kept us (s, es) with ⟨o₁, s₁, es₁⟩
  obtain ⟨ht₁, hends⟩ := reportAll_ledger h hgo hra
  rcases Task.bind_inv hr with ⟨kept', ⟨s₁', es₁'⟩, hra', hr⟩ | ⟨o, ho, hne, hr⟩
  · rw [hra, Prod.mk.injEq, Prod.mk.injEq] at hra'
    obtain ⟨rfl, rfl, rfl⟩ := hra'
    rcases hends with ⟨-, hgo₁, hpolls₁, hup₁⟩ | ⟨hne, -⟩
    · have ht₂ := ht₁.reported hgo₁ kept' .pollDone
      rcases Task.entered_bind_inv hr with ⟨kept₂, s₂, hd, hr⟩ | ⟨o, ho, hne, hr⟩
      · rw [reportEntry, hd] at ht₂
        refine .inl ⟨kept₂, s₂, _, hr, ht₂, Ledger.goesOn_concat.2 ⟨hgo₁, rfl⟩,
          ⟨es₁, _, rfl, rfl⟩, ?_, ?_⟩
        · rw [Ledger.polls_concat, hpolls₁]
          simp [PollCall.fetch?]
        · rw [Ledger.updates_concat, hup₁]
          simp [PollCall.update?]
      · exact .inr ⟨o, _, _, hr, ht₂, es₁, _, rfl, ho.symm, hne⟩
    · exact absurd (Outcome.ended_done kept') hne
  · rw [hra] at ho hr
    refine .inr ⟨o, s₁, es₁, hr, ht₁, ?_⟩
    rcases hends with ⟨⟨kept', rfl⟩, -⟩ | ⟨-, hend⟩
    · exact absurd ho hne
    · rwa [ho]

/-! ## One poll -/

/-- While the list is not empty, there are ids left to ask for. -/
theorem Resting.remaining_nonempty {es : Ledger σ PollCall} {number : Nat} {running : List Int}
    {s : σ} (h : Resting p report actions start es number running s) (hne : running ≠ []) :
    (es.remaining actions).Nonempty := by
  rw [Finset.nonempty_iff_ne_empty]
  intro hempty
  exact hne (by rw [h.running_eq, hempty, Finset.sort_empty])

/-- When the list is empty, no id is left. -/
theorem Resting.remaining_eq_empty {es : Ledger σ PollCall} {number : Nat} {s : σ}
    (h : Resting p report actions start es number [] s) : es.remaining actions = ∅ := by
  have hlen := congrArg List.length h.running_eq
  rw [Finset.length_sort, List.length_nil] at hlen
  exact Finset.card_eq_zero.1 hlen.symm

/-- The entry of a pause. -/
abbrev pauseEntry (p : Polling σ) (number : Nat) (s : σ) : Entry σ PollCall :=
  ⟨.pause number (p.pause number s).1, s, (p.pause number s).2⟩

/-- The entry of a question. -/
abbrev fetchEntry (p : Polling σ) (ids : List Int) (s : σ) : Entry σ PollCall :=
  ⟨.fetch ids (p.fetch ids s).1, s, (p.fetch ids s).2⟩

/-- **Inversion for a poll**: its pause ends it, or its question does, or else the answer has one
snapshot for each id and is reported. -/
theorem once_inv {number : Nat} {running : List Int} {kept : τ} {es es' : Ledger σ PollCall}
    {s s' : σ} {o : Outcome (List Int × τ)}
    (hr : once p.entered report.entered number running kept (s, es) = (o, s', es')) :
    (es' = es ++ [pauseEntry p number s] ∧ s' = (p.pause number s).2 ∧
        (pauseEntry p number s).call.Ends o.ended) ∨
    ∃ s₁, p.pause number s = (.done (), s₁) ∧
      ((es' = es ++ [⟨.pause number (.done ()), s, s₁⟩] ++ [fetchEntry p running s₁] ∧
          s' = (p.fetch running s₁).2 ∧ (fetchEntry p running s₁).call.Ends o.ended) ∨
        ∃ us s₂, p.fetch running s₁ = (.done us, s₂) ∧ us.length = running.length ∧
          (reportAll report.entered kept us >>= fun kept => report.entered kept .pollDone >>=
              fun kept => pure (us.foldl stillRunning running, kept))
            (s₂, es ++ [⟨.pause number (.done ()), s, s₁⟩] ++
              [⟨.fetch running (.done us), s₁, s₂⟩]) = (o, s', es')) := by
  rcases Task.entered_bind_inv hr with ⟨_, s₁, hp, hr⟩ | ⟨o', ho, hne, hr⟩
  swap
  · -- the pause ends the poll
    rw [Prod.mk.injEq, Prod.mk.injEq] at hr
    obtain ⟨rfl, rfl, rfl⟩ := hr
    rw [Outcome.ended_unit] at ho
    exact .inl ⟨rfl, rfl, ho.symm, hne⟩
  refine .inr ⟨s₁, hp, ?_⟩
  rcases Task.entered_bind_inv hr with ⟨us, s₂, hf, hr⟩ | ⟨o', ho, hne, hr⟩
  swap
  · -- there is no answer
    rw [Prod.mk.injEq, Prod.mk.injEq] at hr
    obtain ⟨rfl, rfl, rfl⟩ := hr
    exact .inl ⟨rfl, rfl, .inl ⟨ho.symm, hne⟩⟩
  split_ifs at hr with hlen
  · exact .inr ⟨us, s₂, hf, hlen, hr⟩
  · -- the answer has too many snapshots or too few
    rw [Task.fail_apply, Prod.mk.injEq, Prod.mk.injEq] at hr
    obtain ⟨rfl, rfl, rfl⟩ := hr
    rw [fetchEntry, hf]
    exact .inl ⟨rfl, rfl, .inr ⟨us, rfl, hlen, rfl⟩⟩

/-- The pause of a poll fits. -/
theorem Resting.paused {es : Ledger σ PollCall} {number : Nat} {running : List Int} {s : σ}
    (h : Resting p report actions start es number running s) (hne : running ≠ []) :
    Traced p report actions start (es ++ [pauseEntry p number s]) (p.pause number s).2 :=
  h.concat ⟨h.last.symm, h.goesOn, rfl, h.number_eq.symm, h.between, h.remaining_nonempty hne⟩

/-- The question after the pause fits. -/
theorem Resting.asked {es : Ledger σ PollCall} {number : Nat} {running : List Int} {s s₁ : σ}
    (h : Resting p report actions start es number running s) (hne : running ≠ [])
    (hp : p.pause number s = (.done (), s₁)) :
    Traced p report actions start
      (es ++ [⟨.pause number (.done ()), s, s₁⟩] ++ [fetchEntry p running s₁])
      (p.fetch running s₁).2 := by
  have ht := h.paused hne
  rw [pauseEntry, hp] at ht
  have hgo : Ledger.GoesOn (es ++ [⟨.pause number (.done ()), s, s₁⟩]) :=
    Ledger.goesOn_concat.2 ⟨h.goesOn, rfl⟩
  refine ht.concat ⟨ht.last.symm, hgo, rfl, ?_, hne, es, _, rfl, ?_⟩
  · rw [Ledger.remaining_concat_of_fetch?_eq_none rfl, h.running_eq]
  · rw [h.number_eq]

/-- **A poll keeps the invariant**, or its last call ends the wait. -/
theorem once_ledger {es : Ledger σ PollCall} {number : Nat} {running : List Int} {s : σ}
    (h : Resting p report actions start es number running s) (hne : running ≠ []) {kept : τ}
    {o : Outcome (List Int × τ)} {s' : σ} {es' : Ledger σ PollCall}
    (hr : once p.entered report.entered number running kept (s, es) = (o, s', es')) :
    (∃ running' kept', o = .done (running', kept') ∧
        Resting p report actions start es' (number + 1) running' s') ∨
      (Traced p report actions start es' s' ∧ es'.EndsWith o.ended) := by
  rcases once_inv hr with ⟨rfl, rfl, hends⟩ | ⟨s₁, hp, ⟨rfl, rfl, hends⟩ | ⟨us, s₂, hf, hlen, hr⟩⟩
  · exact .inr ⟨h.paused hne, es, _, rfl, hends⟩
  · exact .inr ⟨h.asked hne hp, _, _, rfl, hends⟩
  have htf := h.asked hne hp
  rw [fetchEntry, hf] at htf
  have hgo : Ledger.GoesOn (es ++ [⟨.pause number (.done ()), s, s₁⟩] ++
      [⟨.fetch running (.done us), s₁, s₂⟩]) :=
    Ledger.goesOn_concat.2 ⟨Ledger.goesOn_concat.2 ⟨h.goesOn, rfl⟩, us, rfl, hlen⟩
  rcases reports_inv htf hgo hr with
    ⟨kept', s₃, es₃, hr, ht₃, hgo₃, hbetween, hpolls, hup⟩ | ⟨o', s₃, es₃, hr, ht₃, hends⟩
  swap
  · -- a report ends the wait
    rw [Prod.mk.injEq, Prod.mk.injEq] at hr
    obtain ⟨rfl, rfl, rfl⟩ := hr
    exact .inr ⟨ht₃, hends⟩
  rw [Task.pure_apply, Prod.mk.injEq, Prod.mk.injEq] at hr
  obtain ⟨rfl, rfl, rfl⟩ := hr
  have hpolls' : Ledger.polls es₃ = es.polls ++ [(running, .done us)] := by
    rw [hpolls, Ledger.polls_concat, Ledger.polls_concat]
    simp [PollCall.fetch?]
  have hanswers : Ledger.answers es₃ = es.answers ++ [us] := by
    rw [Ledger.answers, hpolls', List.filterMap_append]
    rfl
  refine .inl ⟨_, kept', rfl, ht₃, hgo₃, hbetween, ?_, ?_, ?_⟩
  · rw [hpolls', List.length_append, h.number_eq]
    rfl
  · rw [h.running_eq, foldl_stillRunning_sort, Ledger.remaining, Ledger.remaining, hanswers,
      sdiff_sdiff_left, Finset.sup_eq_union, ← finishedIds_append]
    simp
  · rw [hup, Ledger.updates_concat, Ledger.updates_concat, h.updates_eq, hanswers]
    simp [PollCall.update?]

/-! ## All polls -/

variable (p report actions start) in
/-- How a wait can end that may make so many polls. -/
inductive EndOfWait (bound : Nat) : Outcome τ → Ledger σ PollCall → σ → Prop
  /-- no id is left -/
  | finished {es s number} (kept : τ) (resting : Resting p report actions start es number [] s)
    (le_bound : number ≤ bound) : EndOfWait bound (.done kept) es s
  /-- ids are left, but no poll -/
  | outOfPolls {es s running} (resting : Resting p report actions start es bound running s)
    (left : running ≠ []) : EndOfWait bound .unfinished es s
  /-- the last call ends the wait -/
  | ended {o es s} (traced : Traced p report actions start es s) (ends : es.EndsWith o.ended) :
    EndOfWait bound o es s

theorem EndOfWait.traced {bound : Nat} {o : Outcome τ} {es : Ledger σ PollCall} {s : σ}
    (h : EndOfWait p report actions start bound o es s) : Traced p report actions start es s := by
  cases h with
  | finished _ resting _ => exact resting.toTraced
  | outOfPolls resting _ => exact resting.toTraced
  | ended traced _ => exact traced

/-- A call that does not let a wait go on is the last one. -/
theorem Traced.eq_of_not_goesOn {es earlier : Ledger σ PollCall} {e : Entry σ PollCall} {s : σ}
    (h : Traced p report actions start es s) (hpre : earlier ++ [e] <+: es)
    (hgo : ¬ e.call.GoesOn) : es = earlier ++ [e] := by
  obtain ⟨_ | ⟨next, rest⟩, rfl⟩ := hpre
  · exact List.append_nil _
  · obtain ⟨-, hgoes, -⟩ := h.fits (earlier ++ [e]) next ⟨rest, by simp⟩
    exact absurd (hgoes e (by simp)) hgo

/-- **And the wait ends as this call says.** -/
theorem EndOfWait.ends_of_not_goesOn {bound : Nat} {o : Outcome τ} {es earlier : Ledger σ PollCall}
    {e : Entry σ PollCall} {s : σ} (h : EndOfWait p report actions start bound o es s)
    (hpre : earlier ++ [e] <+: es) (hgo : ¬ e.call.GoesOn) : e.call.Ends o.ended := by
  have hlast := h.traced.eq_of_not_goesOn hpre hgo
  have hmem : e ∈ es := hpre.subset (by simp)
  cases h with
  | finished _ resting _ => exact absurd (resting.goesOn e hmem) hgo
  | outOfPolls resting _ => exact absurd (resting.goesOn e hmem) hgo
  | ended _ ends =>
    obtain ⟨prior, e', heq, hends⟩ := ends
    obtain ⟨-, rfl⟩ := List.append_singleton_inj.1 (hlast.symm.trans heq)
    exact hends

/-- **The loop ends at rest, or its last call ends the wait.** -/
theorem loop_ledger {rounds number : Nat} {running : List Int} {es : Ledger σ PollCall} {s : σ}
    (h : Resting p report actions start es number running s) {kept : τ} {o : Outcome τ} {s' : σ}
    {es' : Ledger σ PollCall}
    (hr : loop p.entered report.entered rounds number running kept (s, es) = (o, s', es')) :
    EndOfWait p report actions start (number + rounds) o es' s' := by
  -- what one poll hands to the next one is `Resting`, with the next number
  induction rounds generalizing number running es s kept with
  | zero =>
    cases running with
    | nil =>
      rw [loop, Task.pure_apply, Prod.mk.injEq, Prod.mk.injEq] at hr
      obtain ⟨rfl, rfl, rfl⟩ := hr
      exact .finished kept h (Nat.le_refl _)
    | cons id rest =>
      rw [loop, Task.giveUp, Prod.mk.injEq, Prod.mk.injEq] at hr
      obtain ⟨rfl, rfl, rfl⟩ := hr
      exact .outOfPolls h (List.cons_ne_nil _ _)
  | succ rounds ih =>
    cases running with
    | nil =>
      rw [loop, Task.pure_apply, Prod.mk.injEq, Prod.mk.injEq] at hr
      obtain ⟨rfl, rfl, rfl⟩ := hr
      exact .finished kept h (Nat.le_add_right _ _)
    | cons id rest =>
      rcases ho : once p.entered report.entered number (id :: rest) kept (s, es) with
        ⟨o₁, s₁, es₁⟩
      have honce := once_ledger h (List.cons_ne_nil _ _) ho
      rcases Task.bind_inv hr with ⟨⟨running', kept'⟩, ⟨s₂, es₂⟩, h₁, hr⟩ | ⟨o₂, h₁, hne, hr⟩
      · rw [ho, Prod.mk.injEq, Prod.mk.injEq] at h₁
        obtain ⟨rfl, rfl, rfl⟩ := h₁
        rcases honce with ⟨running₁, kept₁, heq, hrest⟩ | ⟨-, hends⟩
        · rw [Outcome.done.injEq, Prod.mk.injEq] at heq
          obtain ⟨rfl, rfl⟩ := heq
          have := ih hrest hr
          rwa [Nat.add_assoc, Nat.add_comm 1] at this
        · exact absurd (Outcome.ended_done _) hends.ne_done
      · rw [ho] at h₁ hr
        rw [Prod.mk.injEq, Prod.mk.injEq] at hr
        obtain ⟨rfl, rfl, rfl⟩ := hr
        rcases honce with ⟨running', kept', rfl, -⟩ | ⟨ht, hends⟩
        · exact absurd h₁ hne
        · exact .ended ht (by rwa [h₁])

variable (p report actions start) in
/-- **How every wait ends**, and what stands in its ledger. -/
theorem poll_ledger (rounds : Nat) (kept : τ) :
    EndOfWait p report actions start rounds (poll rounds p report kept actions start).1
      (ledger rounds p report kept actions start) (poll rounds p report kept actions start).2 := by
  obtain ⟨hout, hstate⟩ := mirrors_poll rounds p report kept actions start []
  rw [← hout, ← hstate, ledger]
  have ht : Traced p report actions start [] start := ⟨Ledger.each_nil, rfl⟩
  have hgo : Ledger.GoesOn ([] : Ledger σ PollCall) := by simp [Ledger.GoesOn]
  rcases hpoll : poll rounds p.entered report.entered kept actions (start, []) with ⟨o, s, es⟩
  rcases reports_inv ht hgo hpoll with
    ⟨kept₁, s₁, es₁, hr, ht₁, hgo₁, hbetween, hpolls, hup⟩ | ⟨o₁, s₁, es₁, hr, ht₁, hends⟩
  · have hanswers : Ledger.answers es₁ = [] := by
      rw [Ledger.answers, hpolls]
      rfl
    have hrest : Resting p report actions start es₁ 0 (runningIds actions) s₁ := by
      refine ⟨ht₁, hgo₁, hbetween, by rw [hpolls]; rfl, ?_, ?_⟩
      · rw [runningIds_eq_sort, Ledger.remaining, hanswers]
        simp
      · rw [hup, hanswers]
        simp [Ledger.updates]
    have hloop := loop_ledger hrest hr
    rwa [Nat.zero_add] at hloop
  · rw [Prod.mk.injEq, Prod.mk.injEq] at hr
    obtain ⟨rfl, rfl, rfl⟩ := hr
    exact .ended ht₁ hends

end CloudClient.Polling
