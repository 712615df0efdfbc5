import CloudClient.Proofs.PollLoop

/-!
# What a wait reports

A wait reports in **batches**: first the actions that are finished already, and then the snapshots
of every answer that it accepts. After each batch it reports that there are no more. If the reporter
never ends the wait within a batch, this is all that it sees, so what it keeps is a function of the
batches.

* `Reporter.Keeps` — such a reporter, and what it keeps.
* `Polling.Batched` — the calls up to now have reported batches, each to what the reporter has kept
  from the reports before. A poll keeps it (`once_batched`), and so does a whole wait
  (`ledger_batched`).
* `Polling.Tracks` — the batches bring one snapshot of each action that is still running. Faithful
  answers do (`Traced.tracks`), and then an action is reported as finished at most once
  (`Tracks.nodup_finished`).
-/

namespace CloudClient

/-! ## Reports -/

/-- What is reported for batches: the snapshots of each one, and then its end. -/
def PollEvent.ofBatches (batches : List (List Action)) : List PollEvent :=
  batches.flatMap fun us => us.map .update ++ [.pollDone]

theorem PollEvent.ofBatches_concat (batches : List (List Action)) (us : List Action) :
    ofBatches (batches ++ [us]) = ofBatches batches ++ (us.map .update ++ [.pollDone]) := by
  rw [ofBatches, ofBatches, List.flatMap_append, List.flatMap_singleton]

/-- The snapshot that is reported. -/
def PollEvent.update? : PollEvent → Option Action
  | update a => some a
  | pollDone => none

theorem PollEvent.filterMap_update?_ofBatches (batches : List (List Action)) :
    (ofBatches batches).filterMap update? = batches.flatten := by
  induction batches with
  | nil => rfl
  | cons us rest ih =>
    have hall : (us.map update ++ [pollDone]).filterMap update? = us := by
      rw [List.filterMap_append, List.filterMap_map]
      exact (List.append_nil _).trans List.filterMap_some
    rw [ofBatches, List.flatMap_cons, List.filterMap_append, hall, ← ofBatches, ih,
      List.flatten_cons]

/-- What is reported by a call. -/
def PollCall.event? : PollCall → Option PollEvent
  | report event _ => some event
  | _ => none

namespace Ledger

variable {σ : Type} {es : Ledger σ PollCall} {e : Entry σ PollCall}

/-- What was reported. -/
def events (es : Ledger σ PollCall) : List PollEvent := es.filterMap (·.call.event?)

/-- The answer to a poll, if it has as many snapshots as were asked for. -/
def acceptedAnswer? (poll : List Int × Outcome (List Action)) : Option (List Action) :=
  poll.2.value?.filter (·.length = poll.1.length)

/-- The answers that were accepted. -/
def accepted (es : Ledger σ PollCall) : List (List Action) := es.polls.filterMap acceptedAnswer?

/-- Does every answer that is accepted have one snapshot of each action that was asked for? -/
def Faithful (es : Ledger σ PollCall) : Prop :=
  ∀ poll ∈ es.polls, ∀ us ∈ acceptedAnswer? poll, (us.map (·.id)).Perm poll.1

instance (es : Ledger σ PollCall) : Decidable es.Faithful :=
  inferInstanceAs (Decidable (∀ poll ∈ es.polls, ∀ us ∈ acceptedAnswer? poll,
    (us.map (·.id)).Perm poll.1))

theorem acceptedAnswer?_eq_some {poll : List Int × Outcome (List Action)} {us : List Action} :
    acceptedAnswer? poll = some us ↔ poll.2 = .done us ∧ us.length = poll.1.length := by
  rw [acceptedAnswer?, Option.filter_eq_some_iff, Outcome.value?_eq_some, decide_eq_true_eq]

theorem events_concat : events (es ++ [e]) = es.events ++ e.call.event?.toList := by
  rw [events, List.filterMap_append]
  cases h : e.call.event? <;> simp [events, h]

/-- A call that reports nothing adds nothing to what was reported. -/
theorem events_concat_of_event?_eq_none (h : e.call.event? = none) :
    events (es ++ [e]) = es.events := by
  rw [events_concat, h]
  exact List.append_nil _

/-- The snapshots among the reports. -/
theorem updates_eq (es : Ledger σ PollCall) :
    es.updates = es.events.filterMap PollEvent.update? := by
  rw [updates, events, List.filterMap_filterMap]
  refine List.filterMap_congr fun e _ => ?_
  rcases e.call with _ | _ | ⟨_ | _, _⟩ <;> rfl

theorem accepted_concat :
    accepted (es ++ [e]) = es.accepted ++ e.call.fetch?.toList.filterMap acceptedAnswer? := by
  rw [accepted, polls_concat, List.filterMap_append]
  rfl

/-- Only questions have answers. -/
theorem accepted_concat_of_fetch?_eq_none (h : e.call.fetch? = none) :
    accepted (es ++ [e]) = es.accepted := by
  rw [accepted_concat, h]
  exact List.append_nil _

theorem accepted_concat_fetch {s s' : σ} {ids : List Int} {us : List Action}
    (h : us.length = ids.length) :
    accepted (es ++ [⟨.fetch ids (.done us), s, s'⟩]) = es.accepted ++ [us] := by
  have haccepted : acceptedAnswer? (ids, .done us) = some us :=
    acceptedAnswer?_eq_some.2 ⟨rfl, h⟩
  rw [accepted_concat]
  simp [PollCall.fetch?, haccepted]

/-- An answer that ends the wait is not accepted. -/
theorem accepted_concat_of_not_goesOn (h : ¬ e.call.GoesOn) :
    accepted (es ++ [e]) = es.accepted := by
  rcases hf : e.call.fetch? with _ | poll
  · exact accepted_concat_of_fetch?_eq_none hf
  · have hnone : acceptedAnswer? poll = none := by
      rw [Option.eq_none_iff_forall_ne_some]
      intro us hus
      obtain ⟨hdone, hlen⟩ := acceptedAnswer?_eq_some.1 hus
      refine h ?_
      rw [PollCall.fetch?_eq_some.1 hf]
      exact ⟨us, hdone, hlen⟩
    rw [accepted_concat, hf]
    simp [hnone]

/-- In a wait that goes on all answers were accepted. -/
theorem GoesOn.accepted_eq (h : es.GoesOn) : es.accepted = es.answers := by
  induction es using List.reverseRecOn with
  | nil => rfl
  | append_singleton es e ih =>
    obtain ⟨hgo, hlast⟩ := goesOn_concat.1 h
    rw [accepted_concat, answers_concat, ih hgo]
    cases hc : e.call with
    | fetch ids answer =>
      rw [hc] at hlast
      obtain ⟨us, rfl, hlen⟩ := hlast
      have haccepted : acceptedAnswer? (ids, .done us) = some us :=
        acceptedAnswer?_eq_some.2 ⟨rfl, hlen⟩
      simp [PollCall.fetch?, haccepted, Outcome.value?]
    | _ => rfl

theorem Faithful.of_concat (h : Faithful (es ++ [e])) : es.Faithful := by
  intro poll hpoll
  refine h poll ?_
  rw [polls_concat]
  exact List.mem_append_left _ hpoll

end Ledger

/-- The reporter ends a wait at the end of a batch only, if it ever does, and what it keeps is this
function of what it has kept before and of what is reported. -/
structure Reporter.Keeps {σ τ : Type} (report : Reporter σ τ) (next : τ → PollEvent → τ) :
    Prop where
  update : ∀ kept a s, ∃ s', report kept (.update a) s = (.done (next kept (.update a)), s')
  pollDone : ∀ kept s kept' s', report kept .pollDone s = (.done kept', s') →
    kept' = next kept .pollDone

namespace Polling

variable {σ τ : Type} (report : Reporter σ τ) (next : τ → PollEvent → τ) (kept : τ)
  (actions : List Action)

/-- What holds of a call, given the calls before it. -/
structure Reports (earlier : Ledger σ PollCall) (e : Entry σ PollCall) : Prop where
  /-- a report is made to what was kept from all that was reported before -/
  report_eq : ∀ event ended, e.call = .report event ended →
    (report (earlier.events.foldl next kept) event e.before).1.ended = ended ∧
      (report (earlier.events.foldl next kept) event e.before).2 = e.after
  /-- between two batches there is nothing left to report -/
  events_eq : e.call.event? = none →
    earlier.events = PollEvent.ofBatches (actions.filter (·.isFinished) :: earlier.accepted)

/-- All calls up to now have reported the batches of the answers up to now. -/
structure Batched (es : Ledger σ PollCall) : Prop where
  /-- every report is made to what was kept -/
  reports : es.Each (Reports report next kept actions)
  /-- the batches are what was reported -/
  events_eq : es.events = PollEvent.ofBatches (actions.filter (·.isFinished) :: es.accepted)

variable {report next kept actions} {p : Polling σ} {es : Ledger σ PollCall} {s : σ} {β : Type}

/-- The snapshots that were reported are those of the batches. -/
theorem Batched.updates_eq (h : Batched report next kept actions es) :
    es.updates = actions.filter (·.isFinished) ++ es.accepted.flatten := by
  rw [Ledger.updates_eq, h.events_eq, PollEvent.filterMap_update?_ofBatches, List.flatten_cons]

/-- A report adds a call. -/
theorem reports_report (event : PollEvent) (s : σ) :
    Reports report next kept actions es
      (reportEntry report (es.events.foldl next kept) event s) where
  report_eq := by
    intro event' ended hc
    cases hc
    exact ⟨rfl, rfl⟩
  events_eq := nofun

/-- Between batches, so does what reports nothing. -/
theorem Batched.reports_of_event?_eq_none (h : Batched report next kept actions es)
    {e : Entry σ PollCall} (hevent : e.call.event? = none) :
    Reports report next kept actions es e where
  report_eq := by
    intro event ended hc
    rw [hc] at hevent
    cases hevent
  events_eq _ := h.events_eq

/-- Calls that report nothing and are not accepted keep batches whole. -/
theorem Batched.concat (h : Batched report next kept actions es) {e : Entry σ PollCall}
    (hevent : e.call.event? = none) (haccepted : Ledger.accepted (es ++ [e]) = es.accepted) :
    Batched report next kept actions (es ++ [e]) where
  reports := h.reports.concat (h.reports_of_event?_eq_none hevent)
  events_eq := by
    rw [Ledger.events_concat_of_event?_eq_none hevent, haccepted, h.events_eq]

/-! ## One batch -/

/-- **Snapshots are reported in turn**, each to what was kept from those before. -/
theorem reportAll_reports (hkeeps : report.Keeps next) (us : List Action)
    (h : es.Each (Reports report next kept actions)) (s : σ) :
    ∃ (s' : σ) (es' : Ledger σ PollCall),
      reportAll report.entered (es.events.foldl next kept) us (s, es) =
          (.done (es'.events.foldl next kept), s', es') ∧
        es'.Each (Reports report next kept actions) ∧ es'.events = es.events ++ us.map .update ∧
        es'.accepted = es.accepted := by
  induction us generalizing es s with
  | nil => exact ⟨s, es, rfl, h, (List.append_nil _).symm, rfl⟩
  | cons a rest ih =>
    obtain ⟨s₁, hr⟩ := hkeeps.update (es.events.foldl next kept) a s
    let es₁ : Ledger σ PollCall := es ++ [⟨.report (.update a) (.done ()), s, s₁⟩]
    have hevents : es₁.events = es.events ++ [.update a] := Ledger.events_concat
    have hentered : report.entered (es.events.foldl next kept) (.update a) (s, es) =
        (.done (es₁.events.foldl next kept), s₁, es₁) := by
      rw [Reporter.entered, Task.entered_apply, hr, hevents, List.foldl_concat]
      rfl
    have hreport : Reports report next kept actions es
        (reportEntry report (es.events.foldl next kept) (.update a) s) :=
      reports_report (.update a) s
    rw [reportEntry, hr] at hreport
    have hreports : es₁.Each (Reports report next kept actions) := h.concat hreport
    obtain ⟨s', es', hall, heach, hevents', haccepted⟩ := ih hreports s₁
    refine ⟨s', es', ?_, heach, ?_, ?_⟩
    · rw [reportAll, Task.bind_done hentered]
      exact hall
    · rw [hevents', hevents, List.append_assoc]
      rfl
    · rw [haccepted]
      exact Ledger.accepted_concat_of_fetch?_eq_none rfl

/-- **A batch is reported with its end**, and then the wait goes on, unless the reporter ends it. -/
theorem reportAll_bind_reports (hkeeps : report.Keeps next) (us : List Action)
    (h : es.Each (Reports report next kept actions)) (s : σ)
    {f : τ → Task (σ × Ledger σ PollCall) β} {r : Outcome β × σ × Ledger σ PollCall}
    (hr : (reportAll report.entered (es.events.foldl next kept) us >>= fun kept =>
      report.entered kept .pollDone >>= f) (s, es) = r) :
    ∃ (s' : σ) (es' : Ledger σ PollCall),
      (f (es'.events.foldl next kept) (s', es') = r ∨
        ∃ o, r = (o, s', es') ∧ o.ended ≠ .done ()) ∧
      es'.Each (Reports report next kept actions) ∧
      es'.events = es.events ++ (us.map .update ++ [.pollDone]) ∧ es'.accepted = es.accepted := by
  obtain ⟨s₁, es₁, hall, heach, hevents, haccepted⟩ := reportAll_reports hkeeps us h s
  let e : Entry σ PollCall := reportEntry report (es₁.events.foldl next kept) .pollDone s₁
  have hlast : Ledger.events (es₁ ++ [e]) = es₁.events ++ [.pollDone] := Ledger.events_concat
  refine ⟨e.after, es₁ ++ [e], ?_, heach.concat (reports_report .pollDone s₁), ?_, ?_⟩
  · rw [Task.bind_done hall] at hr
    rcases Task.entered_bind_inv hr with ⟨kept', s₂, hdone, hf⟩ | ⟨o, -, hne, hends⟩
    · left
      obtain rfl := hkeeps.pollDone _ _ _ _ hdone
      have he : e = ⟨.report .pollDone (.done ()), s₁, s₂⟩ := by
        simp only [e, reportEntry, hdone]
        rfl
      rw [hlast, List.foldl_concat, he]
      exact hf
    · exact .inr ⟨o, hends, hne⟩
  · rw [hlast, hevents, List.append_assoc]
  · rw [← haccepted]
    exact Ledger.accepted_concat_of_fetch?_eq_none rfl

/-- **An answer that is accepted adds a batch**, once it is reported with its end. -/
theorem Batched.fetched (hkeeps : report.Keeps next) (h : Batched report next kept actions es)
    {ids left : List Int} {us : List Action} {s s₁ s' : σ} {o : Outcome (List Int × τ)}
    {es' : Ledger σ PollCall} (hlen : us.length = ids.length)
    (hr : (reportAll report.entered (es.events.foldl next kept) us >>= fun kept =>
      report.entered kept .pollDone >>= fun kept => pure (left, kept))
        (s₁, es ++ [⟨.fetch ids (.done us), s, s₁⟩]) = (o, s', es')) :
    Batched report next kept actions es' ∧
      ∀ left' kept', o = .done (left', kept') → kept' = es'.events.foldl next kept := by
  -- up to its end the batch is accepted, but not yet reported
  have hreports : Ledger.Each (Reports report next kept actions)
      (es ++ [⟨.fetch ids (.done us), s, s₁⟩]) :=
    h.reports.concat (h.reports_of_event?_eq_none rfl)
  have hevents : Ledger.events (es ++ [⟨.fetch ids (.done us), s, s₁⟩]) = es.events :=
    Ledger.events_concat_of_event?_eq_none rfl
  rw [← hevents] at hr
  obtain ⟨s₂, es₂, hends, heach, hevents₂, haccepted⟩ :=
    reportAll_bind_reports hkeeps us hreports s₁ hr
  have hbatched : Batched report next kept actions es₂ := by
    refine ⟨heach, ?_⟩
    rw [hevents₂, hevents, h.events_eq, haccepted, Ledger.accepted_concat_fetch hlen,
      ← List.cons_append, PollEvent.ofBatches_concat]
  rcases hends with hdone | ⟨o', heq, hne⟩
  · rw [Task.pure_apply, Prod.mk.injEq, Prod.mk.injEq] at hdone
    obtain ⟨rfl, rfl, rfl⟩ := hdone
    refine ⟨hbatched, fun left' kept' ho => ?_⟩
    cases ho
    rfl
  · -- the end of the batch ends the wait
    rw [Prod.mk.injEq, Prod.mk.injEq] at heq
    obtain ⟨rfl, rfl, rfl⟩ := heq
    refine ⟨hbatched, ?_⟩
    rintro left' kept' rfl
    exact absurd (Outcome.ended_done _) hne

/-! ## All batches -/

/-- **A poll keeps batches whole**: it adds one if its answer is accepted, and else none. -/
theorem once_batched (hkeeps : report.Keeps next) (h : Batched report next kept actions es)
    {number : Nat} {running : List Int} {o : Outcome (List Int × τ)} {s' : σ}
    {es' : Ledger σ PollCall}
    (hr : once p.entered report.entered number running (es.events.foldl next kept) (s, es) =
      (o, s', es')) :
    Batched report next kept actions es' ∧
      ∀ running' kept', o = .done (running', kept') → kept' = es'.events.foldl next kept := by
  have hpaused (ended : Outcome Unit) (s₁ : σ) :
      Batched report next kept actions (es ++ [⟨.pause number ended, s, s₁⟩]) :=
    h.concat rfl (Ledger.accepted_concat_of_fetch?_eq_none rfl)
  rcases once_inv hr with ⟨rfl, rfl, hends⟩ | ⟨s₁, hp, ⟨rfl, rfl, hends⟩ | ⟨us, s₂, hf, hlen, hr⟩⟩
  · -- the pause ends the wait
    refine ⟨hpaused _ _, ?_⟩
    rintro running' kept' rfl
    exact absurd (Outcome.ended_done _) hends.ne_done
  · -- the answer ends the wait
    refine ⟨(hpaused _ _).concat rfl (Ledger.accepted_concat_of_not_goesOn hends.not_goesOn), ?_⟩
    rintro running' kept' rfl
    exact absurd (Outcome.ended_done _) hends.ne_done
  · -- the answer is a batch
    have hsame : Ledger.events (es ++ [⟨.pause number (.done ()), s, s₁⟩]) = es.events :=
      Ledger.events_concat_of_event?_eq_none rfl
    rw [← hsame] at hr
    exact (hpaused (.done ()) s₁).fetched hkeeps hlen hr

theorem loop_batched (hkeeps : report.Keeps next) (h : Batched report next kept actions es)
    (rounds number : Nat) (running : List Int) :
    Batched report next kept actions
      (loop p.entered report.entered rounds number running (es.events.foldl next kept)
        (s, es)).2.2 := by
  induction rounds generalizing number running es s with
  | zero => cases running <;> exact h
  | succ rounds ih =>
    cases running with
    | nil => exact h
    | cons id rest =>
      rcases ho : once p.entered report.entered number (id :: rest) (es.events.foldl next kept)
        (s, es) with ⟨o, s₁, es₁⟩
      obtain ⟨hbatched, hkept⟩ := once_batched hkeeps h ho
      rw [loop]
      rcases o with ⟨running', kept'⟩ | e | _
      · rw [Task.bind_done ho]
        obtain rfl := hkept running' kept' rfl
        exact ih hbatched (number + 1) running'
      · rw [Task.bind_failed ho]
        exact hbatched
      · rw [Task.bind_unfinished ho]
        exact hbatched

/-- **All that a wait reports are its batches**: the actions that are finished at first, and the
answers that it accepts. -/
theorem ledger_batched (hkeeps : report.Keeps next) (rounds : Nat) (p : Polling σ) (kept : τ)
    (actions : List Action) (start : σ) :
    Batched report next kept actions (ledger rounds p report kept actions start) := by
  have hnone : Ledger.Each (Reports report next kept actions) [] := Ledger.each_nil
  obtain ⟨s, es, hfirst, heach, hevents, haccepted⟩ := reportAll_bind_reports hkeeps
    (actions.filter (·.isFinished)) hnone start
    (f := fun kept => loop p.entered report.entered rounds 0 (runningIds actions) kept) rfl
  have hbatched : Batched report next kept actions es := by
    refine ⟨heach, ?_⟩
    rw [hevents, haccepted]
    exact (List.append_nil _).symm
  rcases hfirst with hloop | ⟨o, hends, -⟩
  · have hledger : ledger rounds p report kept actions start =
        (loop p.entered report.entered rounds 0 (runningIds actions) (es.events.foldl next kept)
          (s, es)).2.2 :=
      congrArg (·.2.2) hloop.symm
    rw [hledger]
    exact loop_batched hkeeps hbatched rounds 0 (runningIds actions)
  · -- the end of the first batch ends the wait
    have hledger : ledger rounds p report kept actions start = es := congrArg (·.2.2) hends
    rw [hledger]
    exact hbatched

/-! ## Faithful answers -/

/-- The ids that run on after batches of snapshots. -/
def runningAfter (actions : List Action) (batches : List (List Action)) : Finset Int :=
  trackedIds actions \ finishedIds batches.flatten

theorem runningAfter_subset (actions : List Action) (batches : List (List Action)) :
    runningAfter actions batches ⊆ trackedIds actions := Finset.sdiff_subset

theorem mem_runningAfter_concat {actions : List Action} {batches : List (List Action)}
    {us : List Action} {id : Int} :
    id ∈ runningAfter actions (batches ++ [us]) ↔
      id ∈ runningAfter actions batches ∧ id ∉ finishedIds us := by
  rw [runningAfter, List.flatten_append, List.flatten_singleton, finishedIds_append,
    ← Finset.sup_eq_union, ← sdiff_sdiff_left, Finset.mem_sdiff, runningAfter]

/-- Each batch brings one snapshot of every action that runs on after the batches before it. -/
inductive Tracks (actions : List Action) : List (List Action) → Prop
  | nil : Tracks actions []
  | concat {batches : List (List Action)} {us : List Action} (h : Tracks actions batches)
      (hids : (us.map (·.id)).Perm (runningAfter actions batches).sort) :
      Tracks actions (batches ++ [us])

/-- **Faithful answers track the actions.** -/
theorem Traced.tracks {start : σ} (h : Traced p report actions start es s) (hf : es.Faithful) :
    Tracks actions es.accepted := by
  obtain ⟨hfits, -⟩ := h
  induction es using List.reverseRecOn with
  | nil => exact .nil
  | append_singleton es e ih =>
    obtain ⟨hfits, -, hgo, hlast⟩ := Ledger.each_concat.1 hfits
    have htracks := ih hf.of_concat hfits
    by_cases hacc : ∃ ids us, e.call = .fetch ids (.done us) ∧ us.length = ids.length
    · obtain ⟨ids, us, hc, hlen⟩ := hacc
      obtain ⟨call, before, after⟩ := e
      obtain rfl : call = .fetch ids (.done us) := hc
      obtain ⟨-, hids, -⟩ := hlast
      have hperm : (us.map (·.id)).Perm ids := by
        refine hf (ids, .done us) ?_ us (Ledger.acceptedAnswer?_eq_some.2 ⟨rfl, hlen⟩)
        rw [Ledger.polls_concat]
        exact List.mem_append_right _ (List.mem_singleton_self _)
      rw [Ledger.accepted_concat_fetch hlen]
      refine htracks.concat ?_
      rwa [hgo.accepted_eq, runningAfter, ← Ledger.remaining, ← hids]
    · have hsame : Ledger.accepted (es ++ [e]) = Ledger.accepted es := by
        cases hc : e.call with
        | fetch ids answer =>
          refine Ledger.accepted_concat_of_not_goesOn ?_
          rw [hc]
          rintro ⟨us, rfl, hlen⟩
          exact hacc ⟨ids, us, hc, hlen⟩
        | _ => exact Ledger.accepted_concat_of_fetch?_eq_none (by rw [hc]; rfl)
      rwa [hsame]

namespace Tracks

variable {batches : List (List Action)}

/-- Only actions that were running at first are tracked. -/
theorem mem_trackedIds (h : Tracks actions batches) {u : Action} (hu : u ∈ batches.flatten) :
    u.id ∈ trackedIds actions := by
  induction h with
  | nil => cases hu
  | @concat batches us h hids ih =>
    rw [List.flatten_append, List.flatten_singleton, List.mem_append] at hu
    rcases hu with hu | hu
    · exact ih hu
    · have hid := hids.subset (List.mem_map_of_mem hu)
      exact runningAfter_subset actions batches ((Finset.mem_sort _).1 hid)

/-- **An action is finished once**: it is not asked for any more. -/
theorem nodup_finished (h : Tracks actions batches) :
    ((batches.flatten.filter (·.isFinished)).map (·.id)).Nodup := by
  induction h with
  | nil => exact List.nodup_nil
  | @concat batches us h hids ih =>
    rw [List.flatten_append, List.flatten_singleton, List.filter_append, List.map_append]
    refine List.Nodup.append ih ?_ ?_
    · have hnodup : (us.map (·.id)).Nodup := hids.nodup_iff.2 (Finset.sort_nodup _ _)
      exact hnodup.sublist (List.filter_sublist.map _)
    · intro id hold hnew
      obtain ⟨u, hu, rfl⟩ := List.mem_map.1 hnew
      have hid := hids.subset (List.mem_map_of_mem (List.mem_of_mem_filter hu))
      refine (Finset.mem_sdiff.1 ((Finset.mem_sort _).1 hid)).2 ?_
      exact List.mem_toFinset.2 hold

/-- **No more snapshots of finished actions come than there are running actions.** -/
theorem length_finished_le (h : Tracks actions batches) :
    (batches.flatten.filter (·.isFinished)).length ≤ (actions.filter (·.isRunning)).length := by
  have hsub : finishedIds batches.flatten ⊆ trackedIds actions := by
    intro id hid
    obtain ⟨u, hu, -, rfl⟩ := mem_finishedIds.1 hid
    exact h.mem_trackedIds hu
  calc (batches.flatten.filter (·.isFinished)).length
      = ((batches.flatten.filter (·.isFinished)).map (·.id)).length := (List.length_map _).symm
    _ = (finishedIds batches.flatten).card := (List.toFinset_card_of_nodup h.nodup_finished).symm
    _ ≤ (trackedIds actions).card := Finset.card_le_card hsub
    _ ≤ ((actions.filter (·.isRunning)).map (·.id)).length := List.toFinset_card_le _
    _ = (actions.filter (·.isRunning)).length := List.length_map _

end Tracks

end Polling

end CloudClient
