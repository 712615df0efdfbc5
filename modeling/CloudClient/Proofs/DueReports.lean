import CloudClient.Proofs.Batches
import CloudClient.Proofs.MissingActions

/-!
# Reports that may end a wait

A wait owes its reporter a report of every action that is finished at first, and then of every
snapshot that an accepted answer has brought, page by page and in this order. The reporter may end
the wait at any of these reports, and an answer may end it as well; either way the wait stops right
there.

* `Paging.Fetches` — how the pages of an answer are fetched, up to the first one that cannot be.
* `Polling.Owes` — the reports that are still due, between any two of them. What is reported is
  always what is due next, and it is reported to what the reporter has kept (`Polling.InTurn`).
  Reports keep this and polls keep this, so it holds of every wait (`Polling.ledger_inTurn`).
* `Client.waitReporting_reports` — hence all that is reported is a beginning of what is due, and a
  report or an answer that fails is the last call.
-/

namespace CloudClient

/-! ## Pages that may fail -/

namespace Paging

variable {σ α : Type}

/-- From the page with this number on, pages are fetched in turn, as each of them names the next
one: up to a page that names none, or to one that cannot be fetched, or until they are too many. -/
inductive Fetches (fetch : Nat → Task σ (Page α)) :
    Nat → Nat → σ → List (Page α) → Outcome Unit → σ → Prop
  /-- no more pages are allowed -/
  | tooMany {number : Nat} {s : σ} : Fetches fetch 0 number s [] .unfinished s
  /-- the page cannot be fetched -/
  | broken {rounds number : Nat} {s : σ} {ended : Outcome Unit}
    (hpage : (fetch number s).1.ended = ended) (hne : ended ≠ .done ()) :
    Fetches fetch (rounds + 1) number s [] ended (fetch number s).2
  /-- the page is the last one -/
  | last {rounds number : Nat} {s s' : σ} {page : Page α}
    (hpage : fetch number s = (.done page, s')) (hnext : page.next? = none) :
    Fetches fetch (rounds + 1) number s [page] (.done ()) s'
  /-- the page names another one -/
  | more {rounds number next : Nat} {s s₁ s' : σ} {page : Page α} {pages : List (Page α)}
    {ended : Outcome Unit} (hpage : fetch number s = (.done page, s₁))
    (hnext : page.next? = some next) (hrest : Fetches fetch rounds next s₁ pages ended s') :
    Fetches fetch (rounds + 1) number s (page :: pages) ended s'

/-- **A list is what its pages hold, in order**, or it fails as the first page does that cannot be
fetched. -/
theorem fetches_of_collectFrom (fetch : Nat → Task σ (Page α)) (rounds number : Nat) (s : σ) :
    ∃ pages, Fetches fetch rounds number s pages (collectFrom fetch rounds number s).1.ended
        (collectFrom fetch rounds number s).2 ∧
      ∀ items, (collectFrom fetch rounds number s).1 = .done items →
        items = pages.flatMap (·.items) := by
  induction rounds generalizing number s with
  | zero => exact ⟨[], .tooMany, nofun⟩
  | succ rounds ih =>
    rcases hcollect : collectFrom fetch (rounds + 1) number s with ⟨o, s'⟩
    rcases Task.bind_inv hcollect with ⟨page, s₁, hpage, hrest⟩ | ⟨o', ho, hne, heq⟩
    swap
    · -- the page cannot be fetched
      obtain ⟨rfl, rfl⟩ := Prod.mk.inj heq
      refine ⟨[], .broken ho.symm hne, ?_⟩
      rintro items rfl
      exact absurd rfl hne
    cases hnext : page.next? with
    | none =>
      simp only [hnext] at hrest
      obtain ⟨rfl, rfl⟩ := Prod.mk.inj hrest
      refine ⟨[page], .last hpage hnext, ?_⟩
      rintro items ⟨⟩
      simp
    | some next =>
      simp only [hnext] at hrest
      obtain ⟨pages, hpages, hitems⟩ := ih next s₁
      rcases Task.bind_inv hrest with ⟨rest, s₂, hothers, hdone⟩ | ⟨o', ho, hne, heq⟩
      · rw [hothers] at hpages hitems
        obtain ⟨rfl, rfl⟩ := Prod.mk.inj hdone
        refine ⟨page :: pages, .more hpage hnext hpages, ?_⟩
        rintro items ⟨⟩
        rw [hitems rest rfl, List.flatMap_cons]
      · -- one of the other pages cannot be fetched
        obtain ⟨rfl, rfl⟩ := Prod.mk.inj heq
        rw [← ho] at hpages
        refine ⟨page :: pages, .more hpage hnext hpages, ?_⟩
        rintro items rfl
        exact absurd rfl hne

end Paging

/-! ## Reports that are due -/

namespace Ledger

variable {σ τ : Type} {es : Ledger σ PollCall} {e : Entry σ PollCall} {actions : List Action}

/-- The reports that were due up to now: those of the actions that are finished at first, and those
of the answers that were accepted. -/
def due (actions : List Action) (es : Ledger σ PollCall) : List PollEvent :=
  PollEvent.ofBatches (actions.filter (·.isFinished) :: es.accepted)

/-- The snapshots among these reports. -/
def dueUpdates (actions : List Action) (es : Ledger σ PollCall) : List Action :=
  actions.filter (·.isFinished) ++ es.accepted.flatten

/-- What a reporter has kept after these calls. Each report is made to what it has kept from the one
before. -/
inductive HasKept (report : Reporter σ τ) (kept : τ) : Ledger σ PollCall → τ → Prop
  | start : HasKept report kept [] kept
  /-- the call is no report -/
  | silent {es : Ledger σ PollCall} {e : Entry σ PollCall} {k : τ}
    (h : HasKept report kept es k) (hsilent : e.call.event? = none) :
    HasKept report kept (es ++ [e]) k
  /-- the call is a report that lets the wait go on -/
  | reported {es : Ledger σ PollCall} {event : PollEvent} {s s' : σ} {k k' : τ}
    (h : HasKept report kept es k) (hr : report k event s = (.done k', s')) :
    HasKept report kept (es ++ [⟨.report event (.done ()), s, s'⟩]) k'

theorem due_concat_of_accepted_eq (h : accepted (es ++ [e]) = es.accepted) :
    due actions (es ++ [e]) = due actions es := by
  rw [due, due, h]

/-- An accepted answer adds its snapshots to what is due, and its end. -/
theorem due_concat_fetch {s s' : σ} {ids : List Int} {us : List Action}
    (h : us.length = ids.length) :
    due actions (es ++ [⟨.fetch ids (.done us), s, s'⟩]) =
      due actions es ++ (us.map .update ++ [.pollDone]) := by
  rw [due, accepted_concat_fetch h, ← List.cons_append, PollEvent.ofBatches_concat, due]

/-- What is due stays due. -/
theorem due_prefix_concat (es : Ledger σ PollCall) (e : Entry σ PollCall) :
    due actions es <+: due actions (es ++ [e]) := by
  rw [due, due, accepted_concat, PollEvent.ofBatches, PollEvent.ofBatches, ← List.cons_append,
    List.flatMap_append]
  exact List.prefix_append _ _

theorem filterMap_update?_due (actions : List Action) (es : Ledger σ PollCall) :
    (due actions es).filterMap PollEvent.update? = dueUpdates actions es := by
  rw [due, PollEvent.filterMap_update?_ofBatches, List.flatten_cons, dueUpdates]

/-- A call with calls before it and after it. -/
theorem prefix_of_eq {earlier later : Ledger σ PollCall} (h : es = earlier ++ e :: later) :
    earlier ++ [e] <+: es :=
  ⟨later, by rw [h, List.append_assoc, List.singleton_append]⟩

end Ledger

namespace Polling

variable {σ τ : Type} (report : Reporter σ τ) (kept : τ) (actions : List Action)

/-- What holds of a call, given the calls before it. -/
structure InTurn (earlier : Ledger σ PollCall) (e : Entry σ PollCall) : Prop where
  /-- a report is the next one that is due, and it is made to what was kept -/
  next : ∀ event ended, e.call = .report event ended →
    earlier.events ++ [event] <+: earlier.due actions ∧
      ∃ k o, earlier.HasKept report kept k ∧ report k event e.before = (o, e.after) ∧
        o.ended = ended
  /-- the end of a batch is the last report that is due -/
  whole : ∀ ended, e.call = .report .pollDone ended →
    earlier.events ++ [.pollDone] = earlier.due actions
  /-- when something else is called, no report is due -/
  events_eq : e.call.event? = none → earlier.events = earlier.due actions

/-- All calls up to now came in turn, and these reports are still due. -/
structure Owes (es : Ledger σ PollCall) (k : τ) (events : List PollEvent) : Prop where
  /-- the calls came in turn -/
  inTurn : es.Each (InTurn report kept actions)
  /-- this is what was kept -/
  hasKept : es.HasKept report kept k
  /-- the other reports that were due were made -/
  events_append : es.events ++ events = es.due actions

variable {report kept actions} {p : Polling σ} {es es' : Ledger σ PollCall} {s s' : σ} {k : τ}
  {event : PollEvent} {events : List PollEvent} {β : Type}

/-- A report that is due is in turn. The end of a batch has to be the last one. -/
theorem Owes.inTurn_report (h : Owes report kept actions es k (event :: events))
    (hlast : event = .pollDone → events = []) (s : σ) :
    InTurn report kept actions es (reportEntry report k event s) where
  next := by
    rintro event' ended ⟨⟩
    refine ⟨⟨events, ?_⟩, k, _, h.hasKept, rfl, rfl⟩
    rw [← h.events_append, List.append_assoc, List.singleton_append]
  whole := by
    rintro ended ⟨⟩
    rw [← h.events_append, hlast rfl]
  events_eq := nofun

/-- When no report is due, anything else is in turn. -/
theorem Owes.inTurn_silent (h : Owes report kept actions es k []) {e : Entry σ PollCall}
    (hsilent : e.call.event? = none) : InTurn report kept actions es e where
  next := by
    intro event ended hc
    rw [hc] at hsilent
    cases hsilent
  whole := by
    intro ended hc
    rw [hc] at hsilent
    cases hsilent
  events_eq _ := by rw [← h.events_append, List.append_nil]

/-- A call that is no report and brings nothing leaves no report due. -/
theorem Owes.silent (h : Owes report kept actions es k []) {e : Entry σ PollCall}
    (hsilent : e.call.event? = none) (haccepted : Ledger.accepted (es ++ [e]) = es.accepted) :
    Owes report kept actions (es ++ [e]) k [] where
  inTurn := h.inTurn.concat (h.inTurn_silent hsilent)
  hasKept := h.hasKept.silent hsilent
  events_append := by
    rw [Ledger.events_concat_of_event?_eq_none hsilent,
      Ledger.due_concat_of_accepted_eq haccepted, ← h.events_append]

/-- An answer that is accepted makes its reports due. -/
theorem Owes.fetched (h : Owes report kept actions es k []) {ids : List Int} {us : List Action}
    (hlen : us.length = ids.length) :
    Owes report kept actions (es ++ [⟨.fetch ids (.done us), s, s'⟩]) k
      (us.map .update ++ [.pollDone]) where
  inTurn := h.inTurn.concat (h.inTurn_silent rfl)
  hasKept := h.hasKept.silent rfl
  events_append := by
    rw [Ledger.due_concat_fetch hlen, ← h.events_append,
      Ledger.events_concat_of_event?_eq_none rfl, List.append_nil]

/-- **Inversion for a report that is due**: the other ones are due after it, or it was the last
call. -/
theorem Owes.report_inv (h : Owes report kept actions es k (event :: events))
    (hlast : event = .pollDone → events = [])
    {f : τ → Task (σ × Ledger σ PollCall) β} {r : Outcome β × σ × Ledger σ PollCall}
    (hr : (report.entered k event >>= f) (s, es) = r) :
    (∃ k' s' es', f k' (s', es') = r ∧ Owes report kept actions es' k' events) ∨
      (r.2.2.Each (InTurn report kept actions) ∧ r.1.ended ≠ .done ()) := by
  have hturn := h.inTurn.concat (h.inTurn_report hlast s)
  rcases Task.entered_bind_inv hr with ⟨k', s', hreport, hf⟩ | ⟨o, -, hne, rfl⟩
  · rw [reportEntry, hreport] at hturn
    refine .inl ⟨k', s', _, hf, hturn, h.hasKept.reported hreport, ?_⟩
    rw [Ledger.events_concat,
      Ledger.due_concat_of_accepted_eq (Ledger.accepted_concat_of_fetch?_eq_none rfl),
      ← h.events_append, List.append_assoc]
    rfl
  · exact .inr ⟨hturn, hne⟩

/-- **The snapshots of a batch are reported in turn**, up to one whose report ends the wait. -/
theorem Owes.reportAll_inv {us : List Action}
    (h : Owes report kept actions es k (us.map .update ++ events))
    {f : τ → Task (σ × Ledger σ PollCall) β} {r : Outcome β × σ × Ledger σ PollCall}
    (hr : (reportAll report.entered k us >>= f) (s, es) = r) :
    (∃ k' s' es', f k' (s', es') = r ∧ Owes report kept actions es' k' events) ∨
      (r.2.2.Each (InTurn report kept actions) ∧ r.1.ended ≠ .done ()) := by
  induction us generalizing k s es with
  | nil => exact .inl ⟨k, s, es, hr, h⟩
  | cons a rest ih =>
    have hone : (report.entered k (.update a) >>= fun k => reportAll report.entered k rest >>= f)
        (s, es) = r := by
      rw [← hr, reportAll, bind_assoc]
    rcases h.report_inv PollEvent.noConfusion hone with ⟨k', s', es', hrest, howes⟩ | hends
    · exact ih howes hrest
    · exact .inr hends

/-- The snapshots of a batch are reported, and then its end. -/
theorem Owes.batch_inv {us : List Action}
    (h : Owes report kept actions es k (us.map .update ++ [.pollDone]))
    {f : τ → Task (σ × Ledger σ PollCall) β} {r : Outcome β × σ × Ledger σ PollCall}
    (hr : (reportAll report.entered k us >>= fun k => report.entered k .pollDone >>= f) (s, es) =
      r) :
    (∃ k' s' es', f k' (s', es') = r ∧ Owes report kept actions es' k' []) ∨
      (r.2.2.Each (InTurn report kept actions) ∧ r.1.ended ≠ .done ()) := by
  rcases h.reportAll_inv hr with ⟨k', s', es', hdone, howes⟩ | hends
  · exact howes.report_inv (fun _ => rfl) hdone
  · exact .inr hends

/-! ## Polls -/

/-- **A poll leaves no report due**, or its last call ends the wait. -/
theorem Owes.once (h : Owes report kept actions es k []) {number : Nat} {running : List Int}
    {o : Outcome (List Int × τ)}
    (hr : once p.entered report.entered number running k (s, es) = (o, s', es')) :
    es'.Each (InTurn report kept actions) ∧
      ∀ running' k', o = .done (running', k') → Owes report kept actions es' k' [] := by
  have hpaused (ended : Outcome Unit) (s₁ : σ) :
      Owes report kept actions (es ++ [⟨.pause number ended, s, s₁⟩]) k [] :=
    h.silent rfl (Ledger.accepted_concat_of_fetch?_eq_none rfl)
  rcases once_inv hr with ⟨rfl, rfl, hends⟩ | ⟨s₁, hp, ⟨rfl, rfl, hends⟩ | ⟨us, s₂, hf, hlen, hr⟩⟩
  · refine ⟨(hpaused _ _).inTurn, ?_⟩
    rintro running' k' rfl
    exact absurd rfl hends.ne_done
  · refine ⟨(hpaused _ _).inTurn.concat ((hpaused _ _).inTurn_silent rfl), ?_⟩
    rintro running' k' rfl
    exact absurd rfl hends.ne_done
  · rcases ((hpaused _ _).fetched hlen).batch_inv hr with
      ⟨k', s₃, es₃, hdone, howes⟩ | ⟨hturn, hne⟩
    · obtain ⟨rfl, rfl, rfl⟩ : _ ∧ _ ∧ _ := by simpa using hdone
      refine ⟨howes.inTurn, ?_⟩
      rintro running' k'' ⟨⟩
      exact howes
    · refine ⟨hturn, ?_⟩
      rintro running' k' rfl
      exact absurd rfl hne

theorem Owes.loop (h : Owes report kept actions es k []) (rounds number : Nat)
    (running : List Int) :
    (loop p.entered report.entered rounds number running k (s, es)).2.2.Each
      (InTurn report kept actions) := by
  induction rounds generalizing number running k es s with
  | zero => cases running <;> exact h.inTurn
  | succ rounds ih =>
    cases running with
    | nil => exact h.inTurn
    | cons id rest =>
      rcases ho : Polling.once p.entered report.entered number (id :: rest) k (s, es) with
        ⟨o, s₁, es₁⟩
      obtain ⟨hturn, howes⟩ := h.once ho
      rw [Polling.loop]
      rcases o with ⟨running', k'⟩ | e | _
      · rw [Task.bind_done ho]
        exact ih (howes running' k' rfl) (number + 1) running'
      · rw [Task.bind_failed ho]
        exact hturn
      · rw [Task.bind_unfinished ho]
        exact hturn

variable (report kept actions) in
/-- **All calls of a wait come in turn**: what is reported is always what is due next, and when the
wait pauses or asks, nothing is due. -/
theorem ledger_inTurn (rounds : Nat) (p : Polling σ) (start : σ) :
    (ledger rounds p report kept actions start).Each (InTurn report kept actions) := by
  have hfirst : Owes report kept actions ([] : Ledger σ PollCall) kept
      ((actions.filter (·.isFinished)).map .update ++ [.pollDone]) :=
    ⟨Ledger.each_nil, .start, (List.append_nil _).symm⟩
  rcases hpoll : poll rounds p.entered report.entered kept actions (start, []) with ⟨o, s, es⟩
  rw [ledger, hpoll]
  rcases hfirst.batch_inv hpoll with ⟨k, s₁, es₁, hloop, howes⟩ | ⟨hturn, -⟩
  · have hturn := howes.loop (p := p) (s := s₁) rounds 0 (runningIds actions)
    rwa [hloop] at hturn
  · exact hturn

/-! ## What was reported -/

/-- **All that was reported is a beginning of what was due.** -/
theorem events_prefix_due (h : es.Each (InTurn report kept actions)) :
    es.events <+: es.due actions := by
  rcases List.eq_nil_or_concat' es with rfl | ⟨earlier, e, rfl⟩
  · exact List.nil_prefix
  · obtain ⟨-, hturn⟩ := Ledger.each_concat.1 h
    rw [Ledger.events_concat]
    cases hc : e.call.event? with
    | none =>
      rw [Option.toList_none, List.append_nil, hturn.events_eq hc]
      exact Ledger.due_prefix_concat earlier e
    | some event =>
      obtain ⟨ended, hreport⟩ : ∃ ended, e.call = .report event ended := by
        cases hcall : e.call <;> simp_all [PollCall.event?]
      exact (hturn.next event ended hreport).1.trans (Ledger.due_prefix_concat earlier e)

/-- **All snapshots that were reported are a beginning of those that were due.** -/
theorem updates_prefix (h : es.Each (InTurn report kept actions)) :
    es.updates <+: es.dueUpdates actions := by
  rw [Ledger.updates_eq, ← Ledger.filterMap_update?_due]
  exact (events_prefix_due h).filterMap _

/-- When the wait pauses or asks, all snapshots that were due were reported. -/
theorem InTurn.updates_eq {earlier : Ledger σ PollCall} {e : Entry σ PollCall}
    (h : InTurn report kept actions earlier e) (hsilent : e.call.event? = none) :
    earlier.updates = earlier.dueUpdates actions := by
  rw [Ledger.updates_eq, h.events_eq hsilent, Ledger.filterMap_update?_due]

/-! ## The last call -/

/-- No call follows the one that is entered here: the run has ended in this way, and in the state
that the call has led to. -/
def EndsHere (run : Outcome τ × σ) (e : Entry σ PollCall) (later : Ledger σ PollCall)
    (ended : Outcome Unit) : Prop :=
  later = [] ∧ run.1.ended = ended ∧ run.2 = e.after

variable {start : σ} {bound : Nat} {o : Outcome τ}

/-- **A call that ends a wait is the last one**, and the wait ends as it says. -/
theorem EndOfWait.endsHere (h : EndOfWait p report actions start bound o es s)
    {earlier later : Ledger σ PollCall} {e : Entry σ PollCall} (hes : es = earlier ++ e :: later)
    (hgo : ¬ e.call.GoesOn) : e.call.Ends o.ended ∧ EndsHere (o, s) e later o.ended := by
  have hpre := Ledger.prefix_of_eq hes
  have hlast := h.traced.eq_of_not_goesOn hpre hgo
  have hlater : later = [] := by simpa [hes] using hlast
  have hstate : s = e.after := by rw [← h.traced.last, hlast, Ledger.last_concat]
  exact ⟨h.ends_of_not_goesOn hpre hgo, hlater, rfl, hstate⟩

/-- **All snapshots that were due were reported**, unless the last call is a report that has ended
the wait. -/
theorem EndOfWait.updates_eq_or (h : EndOfWait p report actions start bound o es s)
    (hturn : es.Each (InTurn report kept actions)) :
    es.updates = es.dueUpdates actions ∨
      ∃ earlier event ended s₁ s₂, es = earlier ++ [⟨.report event ended, s₁, s₂⟩] ∧
        ended ≠ .done () := by
  have hresting {number : Nat} {running : List Int}
      (hrest : Resting p report actions start es number running s) :
      es.updates = es.dueUpdates actions := by
    rw [hrest.updates_eq, Ledger.dueUpdates, hrest.goesOn.accepted_eq]
  cases h with
  | finished _ resting _ => exact .inl (hresting resting)
  | outOfPolls resting _ => exact .inl (hresting resting)
  | ended _ ends =>
    obtain ⟨prior, ⟨call, s₁, s₂⟩, rfl, hends⟩ := ends
    obtain ⟨-, hlast⟩ := Ledger.each_concat.1 hturn
    cases call with
    | report event ended => exact .inr ⟨prior, event, ended, s₁, s₂, rfl, hends.1 ▸ hends.2⟩
    | _ =>
      -- nothing was due any more, and the last call has brought nothing
      left
      rw [Ledger.dueUpdates, Ledger.accepted_concat_of_not_goesOn hends.not_goesOn,
        ← Ledger.dueUpdates, ← hlast.updates_eq rfl, Ledger.updates_concat]
      exact List.append_nil _

end Polling

/-! ## Waits of a client -/

namespace Client

open Polling (EndsHere)

variable {τ : Type} (c : Client) (rounds : Nat) (l : Lifetime)
  (report : τ → Action → Task Session τ) (kept : τ) (actions : List Action) (s : Session)

/-- The calls of a wait come in turn. -/
theorem waitLedger_inTurn : (c.waitLedger rounds l report kept actions s).Each
    (Polling.InTurn (.ofUpdates report) kept actions) :=
  Polling.ledger_inTurn _ _ _ _ _ _

variable {c rounds l report kept actions s} {earlier later : Ledger Session PollCall}
  {e : Entry Session PollCall}

/-- A report is made to what the earlier ones have left, and one that fails ends the wait there. -/
theorem waitLedger_report
    (hes : c.waitLedger rounds l report kept actions s = earlier ++ e :: later) {a : Action}
    {ended : Outcome Unit} (hc : e.call = .report (.update a) ended) :
    (∃ k o, earlier.HasKept (.ofUpdates report) kept k ∧
      report k a e.before = (o, e.after) ∧ o.ended = ended) ∧
    (ended ≠ .done () →
      EndsHere (c.waitReporting rounds l report kept actions s) e later ended) := by
  have hturn := c.waitLedger_inTurn rounds l report kept actions s earlier e
    (Ledger.prefix_of_eq hes)
  refine ⟨(hturn.next _ _ hc).2, fun hne => ?_⟩
  have hgo : ¬ e.call.GoesOn := by
    rw [hc]
    exact hne
  obtain ⟨hends, hhere⟩ :=
    (c.waitReporting_ledger rounds l report kept actions s).endsHere hes hgo
  rw [hc] at hends
  rwa [← hends.1] at hhere

/-- An answer is what its pages hold, and one that fails ends the wait there. -/
theorem waitLedger_fetch
    (hes : c.waitLedger rounds l report kept actions s = earlier ++ e :: later) {ids : List Int}
    {answer : Outcome (List Action)} (hc : e.call = .fetch ids answer) :
    (∃ pages, Paging.Fetches (fun page => c.actions l ((ActionFilter.ofIds ids).atPage page))
        rounds 1 e.before pages answer.ended e.after ∧
      ∀ us, answer = .done us → us = pages.flatMap (·.items)) ∧
    (answer.ended ≠ .done () →
      EndsHere (c.waitReporting rounds l report kept actions s) e later answer.ended) ∧
    ∀ us, answer = .done us → us.length ≠ ids.length →
      EndsHere (c.waitReporting rounds l report kept actions s) e later
        (.failed (.actionsNotFound (Polling.missingIds ids us))) := by
  have hwait := c.waitReporting_ledger rounds l report kept actions s
  obtain ⟨-, -, hfits⟩ := hwait.traced.fits earlier e (Ledger.prefix_of_eq hes)
  rw [hc] at hfits
  have hfetch : c.allActions rounds l (.ofIds ids) e.before = (answer, e.after) := hfits.1
  refine ⟨?_, fun hne => ?_, ?_⟩
  · have hpages := Paging.fetches_of_collectFrom
      (fun page => c.actions l ((ActionFilter.ofIds ids).atPage page)) rounds 1 e.before
    rwa [show Paging.collectFrom _ rounds 1 e.before = (answer, e.after) from hfetch] at hpages
  · have hgo : ¬ e.call.GoesOn := by
      rw [hc]
      rintro ⟨us, rfl, -⟩
      exact hne rfl
    obtain ⟨hends, hhere⟩ := hwait.endsHere hes hgo
    rw [hc] at hends
    rcases hends with ⟨heq, -⟩ | ⟨us, rfl, -⟩
    · rwa [← heq] at hhere
    · exact absurd rfl hne
  · rintro us rfl hlen
    have hgo : ¬ e.call.GoesOn := by
      rw [hc]
      rintro ⟨us', heq, hlen'⟩
      cases heq
      exact hlen hlen'
    obtain ⟨hends, hhere⟩ := hwait.endsHere hes hgo
    rw [hc] at hends
    rcases hends with ⟨heq, hne⟩ | ⟨us', heq, -, hmissing⟩
    · exact absurd heq.symm hne
    · cases heq
      rwa [hmissing] at hhere

variable (c rounds l report kept actions s)

/-- **What a wait reports.** The snapshots that are reported are a beginning of those that are due:
the actions that are finished at first, in order, and then the snapshots of the answers that are
accepted, in order. They are all of these, unless the last call is a report that has failed. Each
report is made to what the earlier ones have left, and one that fails ends the wait there, with its
error. An answer is what the pages that were fetched hold, in order, and by then all that is due has
been reported; an answer that cannot be fetched, or that has not as many snapshots as ids were asked
for, ends the wait there: with the error of the page, or because actions are missing. -/
theorem waitReporting_reports :
    (c.waitLedger rounds l report kept actions s).updates <+:
      (c.waitLedger rounds l report kept actions s).dueUpdates actions ∧
    ((c.waitLedger rounds l report kept actions s).updates =
        (c.waitLedger rounds l report kept actions s).dueUpdates actions ∨
      ∃ earlier a ended s₁ s₂, c.waitLedger rounds l report kept actions s =
        earlier ++ [⟨.report (.update a) ended, s₁, s₂⟩] ∧ ended ≠ .done ()) ∧
    ∀ (earlier later : Ledger Session PollCall) (e : Entry Session PollCall),
      c.waitLedger rounds l report kept actions s = earlier ++ e :: later →
      (∀ a ended, e.call = .report (.update a) ended →
        (∃ k o, earlier.HasKept (.ofUpdates report) kept k ∧
          report k a e.before = (o, e.after) ∧ o.ended = ended) ∧
        (ended ≠ .done () →
          EndsHere (c.waitReporting rounds l report kept actions s) e later ended)) ∧
      ∀ ids answer, e.call = .fetch ids answer →
        ids = (earlier.remaining actions).sort ∧
        earlier.updates = earlier.dueUpdates actions ∧
        (∃ pages, Paging.Fetches (fun page => c.actions l ((ActionFilter.ofIds ids).atPage page))
            rounds 1 e.before pages answer.ended e.after ∧
          ∀ us, answer = .done us → us = pages.flatMap (·.items)) ∧
        (answer.ended ≠ .done () →
          EndsHere (c.waitReporting rounds l report kept actions s) e later answer.ended) ∧
        ∀ us, answer = .done us → us.length ≠ ids.length →
          EndsHere (c.waitReporting rounds l report kept actions s) e later
            (.failed (.actionsNotFound (Polling.missingIds ids us))) := by
  have hwait := c.waitReporting_ledger rounds l report kept actions s
  have hturn := c.waitLedger_inTurn rounds l report kept actions s
  refine ⟨Polling.updates_prefix hturn, ?_, fun earlier later e hes => ⟨fun a ended hc => ?_,
    fun ids answer hc => ?_⟩⟩
  · rcases hwait.updates_eq_or hturn with hall | ⟨earlier, event, ended, s₁, s₂, hes, hne⟩
    · exact .inl hall
    · cases event with
      | update a => exact .inr ⟨earlier, a, ended, s₁, s₂, hes, hne⟩
      | pollDone =>
        -- the end of a poll is not handed on, so its report does not fail
        obtain ⟨-, k, o, -, hreport, rfl⟩ :=
          (hturn earlier _ (Ledger.prefix_of_eq hes)).next _ _ rfl
        cases hreport
        exact absurd rfl hne
  · exact waitLedger_report hes hc
  · have hpre := Ledger.prefix_of_eq hes
    refine ⟨?_, (hturn earlier e hpre).updates_eq (by rw [hc]; rfl), waitLedger_fetch hes hc⟩
    obtain ⟨-, -, hfits⟩ := hwait.traced.fits earlier e hpre
    rw [hc] at hfits
    exact hfits.2.1

end Client

namespace Loopback

open Polling (EndsHere)

/-- Counts snapshots up to one, and takes no more of them. -/
def countOne (n : Nat) (_ : Action) : Task Session Nat :=
  if n = 0 then return 1 else Task.fail (.configuration "enough")

/-- A session in which only the first poll is answered. -/
def brokenSession : Session := session [listing [snapshot 1 .running, snapshot 2 .success]]

/-- The second report of three ends a wait, the second poll of another one cannot be answered, and a
third wait gets an answer that is too short. -/
theorem waitReporting_reports_refused :
    (∃ earlier a ended s₁ s₂,
      client.waitLedger 2 .unbounded countOne 0 tracked unevenSession =
          earlier ++ [⟨.report (.update a) ended, s₁, s₂⟩] ∧
        ended ≠ .done () ∧
        EndsHere (client.waitReporting 2 .unbounded countOne 0 tracked unevenSession)
          ⟨.report (.update a) ended, s₁, s₂⟩ [] ended) ∧
    (∃ (e : Entry Session PollCall) (answer : Outcome (List Action)) (later : _),
      e.call = .fetch [1] answer ∧ answer.ended ≠ .done () ∧
        EndsHere (client.waitReporting 2 .unbounded count 0 tracked brokenSession) e later
          answer.ended) ∧
    ∃ (e : Entry Session PollCall) (later : _),
      e.call = .fetch [1, 2] (.done [snapshot 1 .success]) ∧
        EndsHere (client.waitReporting 2 .unbounded count 0 tracked shortSession) e later
          (.failed (.actionsNotFound [2])) := by
  refine ⟨?_, ?_, ?_⟩
  · obtain ⟨-, hall | ⟨earlier, a, ended, s₁, s₂, hes, hne⟩, hcalls⟩ :=
      client.waitReporting_reports 2 .unbounded countOne 0 tracked unevenSession
    · have hsome : (client.waitLedger 2 .unbounded countOne 0 tracked unevenSession).updates ≠
          (client.waitLedger 2 .unbounded countOne 0 tracked unevenSession).dueUpdates tracked := by
        decide +kernel
      exact absurd hall hsome
    · exact ⟨earlier, a, ended, s₁, s₂, hes, hne, ((hcalls earlier [] _ hes).1 a ended rfl).2 hne⟩
  · obtain ⟨-, -, hcalls⟩ := client.waitReporting_reports 2 .unbounded count 0 tracked brokenSession
    have hpoll : ((client.waitLedger 2 .unbounded count 0 tracked brokenSession).polls[1]?).map
        (fun poll => (poll.1, poll.2.value?)) = some ([1], none) := by
      decide +kernel
    obtain ⟨⟨ids, answer⟩, hpoll, heq⟩ := Option.map_eq_some_iff.1 hpoll
    obtain ⟨rfl, hnone⟩ := Prod.mk.inj heq
    obtain ⟨earlier, e, ⟨later, hes⟩, hc, -⟩ := Ledger.exists_fetch_of_polls hpoll
    have hne : answer.ended ≠ .done () := by
      cases answer <;> simp_all [Outcome.value?]
    rw [List.append_assoc, List.singleton_append] at hes
    exact ⟨e, answer, later, hc, hne,
      ((hcalls earlier later e hes.symm).2 [1] answer hc).2.2.2.1 hne⟩
  · obtain ⟨-, -, hcalls⟩ := client.waitReporting_reports 2 .unbounded count 0 tracked shortSession
    have hpoll : shortCalls.polls[0]?.map (fun poll => (poll.1, poll.2.value?)) =
        some ([1, 2], some [snapshot 1 .success]) := by
      decide +kernel
    obtain ⟨earlier, e, ⟨later, hes⟩, hc, -⟩ := Ledger.exists_fetch_of_value? hpoll
    rw [List.append_assoc, List.singleton_append] at hes
    exact ⟨e, later, hc,
      ((hcalls earlier later e hes.symm).2 _ _ hc).2.2.2.2 [snapshot 1 .success] rfl (by decide)⟩

end Loopback

end CloudClient
