import CloudClient.Delivery
import CloudClient.Proofs.Batches
import CloudClient.Proofs.Channels
import CloudClient.Proofs.ClientWait
import CloudClient.Proofs.Failures
import CloudClient.Proofs.Noting

/-!
# The news of a watch

Whoever watches actions is told of failures, is offered percentages, and is told how the watch has
ended. All of it is noted in the log in order, among the requests that are sent. What a watch tells
is a function of what its wait reports (`OverallProgress.allTold`), and so of the batches of that
wait; the rest of what it does says nothing (`Client.reads_last`).

The failures and the end go through a channel with room for one failure of each action. There are
no more, because an action that has failed is not asked for again (`length_failures_le`).

At the end of a batch the watch may break off (`OverallProgress.breaksOff`). What it has told before
stays told, and the batch is whole.
-/

namespace CloudClient

/-! ## What is told -/

/-- The failure or the end that an event tells of. -/
def Event.result? (event : Event) : Option (Except Error Unit) := event.failure? <|> event.finish?

/-- **With room for all failures, a caller receives all of them**, and then the end. -/
theorem Delivery.resultsOf_eq {room : Nat} {history : List (Moment × Event)}
    (h : (brought Event.failure? history).length ≤ room) :
    resultsOf room history =
      brought Event.failure? history ++ brought Event.finish? history := by
  rw [resultsOf, (Channel.deliversAll_of_length_le h).promptly_eq]

/-- How a watch has ended, if it has. -/
def Outcome.result? {α : Type} : Outcome α → Option (Except Error Unit)
  | done _ => some (.ok ())
  | failed e => some (.error e)
  | unfinished => none

/-- The session with an event in its log, if there is one to note. -/
def Session.notedAny (event : Option Event) (s : Session) : Session :=
  (event.map fun event => s.noted event).getD s

theorem Session.Reads.notedAny {α : Type} {read : Event → Option α} (event : Option Event)
    (s : Session) : Reads read (event.toList.filterMap read) s (s.notedAny event) := by
  cases event with
  | none => exact .of_log_eq rfl
  | some event =>
    have hlist : [event].filterMap read = (read event).toList := by
      cases h : read event <;> simp [h]
    rw [Option.toList_some, hlist]
    exact .noted event s

namespace OverallProgress

/-- The progress after a report. -/
def next (total : UInt32) (p : OverallProgress) : PollEvent → OverallProgress
  | .update a => p.record a
  | .pollDone => { p with offered := (p.news? total).getD p.offered }

/-- What is told after a report. -/
def told? (total : UInt32) (p : OverallProgress) : PollEvent → Option Event
  | .update a => a.error?.map .failed
  | .pollDone => (p.news? total).map .progressed

/-- All that is told after reports. -/
def allTold (total : UInt32) : OverallProgress → List PollEvent → List Event
  | _, [] => []
  | p, event :: rest => (p.told? total event).toList ++ allTold total (p.next total event) rest

theorem allTold_append (total : UInt32) (p : OverallProgress) (events events' : List PollEvent) :
    allTold total p (events ++ events') =
      allTold total p events ++ allTold total (events.foldl (next total) p) events' := by
  induction events generalizing p with
  | nil => rfl
  | cons event rest ih =>
    rw [List.cons_append, allTold, allTold, ih, List.append_assoc, List.foldl_cons]

theorem allTold_concat (total : UInt32) (p : OverallProgress) (events : List PollEvent)
    (event : PollEvent) :
    allTold total p (events ++ [event]) =
      allTold total p events ++ (told? total (events.foldl (next total) p) event).toList := by
  rw [allTold_append]
  exact congrArg _ (List.append_nil _)

/-- Does the report break the watch off? -/
def breaksOff (p : OverallProgress) : PollEvent → Bool
  | .update _ => false
  | .pollDone => p.overflows

/-- A sum that overflows is no news. -/
theorem news?_of_overflows {p : OverallProgress} (h : p.overflows = true) (total : UInt32) :
    p.news? total = none := by
  rw [news?, average?, Option.isNone_iff_eq_none.1 h]
  rfl

/-- **The failures that are told of are those of the snapshots**, in order. -/
theorem filterMap_result?_allTold (total : UInt32) (p : OverallProgress)
    (events : List PollEvent) :
    (allTold total p events).filterMap Event.result? =
      ((events.filterMap PollEvent.update?).filterMap (·.error?)).map
        fun e => .error (.action e) := by
  induction events generalizing p with
  | nil => rfl
  | cons event rest ih =>
    rw [allTold, List.filterMap_append, ih]
    cases event with
    | update a =>
      cases h : a.error? <;> simp [told?, PollEvent.update?, h, Event.result?, Event.failure?]
    | pollDone =>
      have hupdates : (PollEvent.pollDone :: rest).filterMap PollEvent.update? =
          rest.filterMap PollEvent.update? := rfl
      rw [hupdates]
      cases h : p.news? total <;> simp [told?, h, Event.result?, Event.failure?, Event.finish?]

end OverallProgress

namespace Client

open OverallProgress (next told? allTold)
open Polling (Fits Reports reportOverall)

/-- A report to a watch notes what is told, and nothing else, even if the watch breaks off. -/
theorem reportOverall_apply (total : UInt32) (p : OverallProgress) (event : PollEvent)
    (s : Session) :
    reportOverall logWatcher total p event s =
      (if p.breaksOff event then .unfinished else .done (p.next total event),
        s.notedAny (p.told? total event)) := by
  cases event with
  | update a =>
    simp only [reportOverall, told?]
    cases a.error? <;> rfl
  | pollDone =>
    simp only [reportOverall, told?, next, OverallProgress.breaksOff]
    by_cases hover : p.overflows = true
    · simp only [hover, OverallProgress.news?_of_overflows hover]
      rfl
    · simp only [hover]
      cases p.news? total <;> rfl

theorem reportOverall_keeps (total : UInt32) :
    (reportOverall logWatcher total).Keeps (next total) where
  update p a s := ⟨_, reportOverall_apply total p (.update a) s⟩
  pollDone := by
    intro p s p' s' h
    rw [reportOverall_apply, Prod.mk.injEq] at h
    obtain ⟨hdone, -⟩ := h
    split_ifs at hdone
    exact (Outcome.done.inj hdone).symm

variable (c : Client) (rounds : Nat) (l : Lifetime) (actions : List Action) (s : Session)

/-- The wait of a watch. -/
def overallWait : Task Session OverallProgress :=
  (c.polling rounds l).poll rounds (reportOverall logWatcher (UInt32.ofNat actions.length)) .start
    actions

/-- The calls of the wait of a watch. -/
def watchLedger : Ledger Session PollCall :=
  (c.polling rounds l).ledger rounds (reportOverall logWatcher (UInt32.ofNat actions.length)) .start
    actions s

section Reading

variable {α : Type} {read : Event → Option α} {total : UInt32} {es : Ledger Session PollCall}
  {e : Entry Session PollCall}

/-- What a call of a watch tells: pauses and questions tell nothing. -/
def toldBy (total : UInt32) (earlier : Ledger Session PollCall) (e : Entry Session PollCall) :
    Option Event :=
  e.call.event?.bind (told? total (earlier.events.foldl (next total) .start))

/-- **A call adds what it tells to the log**, and nothing else that can be read. -/
theorem reads_call (hsent : ∀ r, read (.sent r) = none) (hjudged : ∀ e n, read (.judged e n) = none)
    (hfits : Fits (c.polling rounds l) (reportOverall logWatcher total) actions s es e)
    (hreports : Reports (reportOverall logWatcher total) (next total) .start actions es e) :
    Session.Reads read ((toldBy total es e).toList.filterMap read) e.before e.after := by
  obtain ⟨-, -, hlast⟩ := hfits
  rw [toldBy]
  cases hc : e.call with
  | pause number ended =>
    rw [hc] at hlast
    have hafter : (Session.pause l c.pollBackoff number e.before).2 = e.after :=
      congrArg Prod.snd hlast.1
    rw [← hafter]
    exact (Session.notesOnly_pause l c.pollBackoff number).reads e.before
  | fetch ids answer =>
    rw [hc] at hlast
    have hafter : (c.allActions rounds l (.ofIds ids) e.before).2 = e.after :=
      congrArg Prod.snd hlast.1
    rw [← hafter]
    exact (c.notesOnly_pages hjudged rounds l (.ofIds ids) fun _ r _ => hsent r).reads e.before
  | report event ended =>
    obtain ⟨-, hafter⟩ := hreports.report_eq event ended hc
    rw [reportOverall_apply] at hafter
    rw [← hafter]
    exact .notedAny _ e.before

/-- **The news in the log are what the reports tell.** -/
theorem reads_last (hsent : ∀ r, read (.sent r) = none) (hjudged : ∀ e n, read (.judged e n) = none)
    (hfits : es.Each (Fits (c.polling rounds l) (reportOverall logWatcher total) actions s))
    (hreports : es.Each (Reports (reportOverall logWatcher total) (next total) .start actions)) :
    Session.Reads read ((allTold total .start es.events).filterMap read) s (es.last s) := by
  -- by the calls: each starts where the one before it has ended
  induction es using List.reverseRecOn with
  | nil => exact .of_log_eq rfl
  | append_singleton es e ih =>
    obtain ⟨hfits, hfit⟩ := Ledger.each_concat.1 hfits
    obtain ⟨hreports, hreport⟩ := Ledger.each_concat.1 hreports
    have hfirst := ih hfits hreports
    rw [← hfit.1] at hfirst
    have hboth := hfirst.trans (c.reads_call rounds l actions s hsent hjudged hfit hreport)
    rw [Ledger.last_concat, Ledger.events_concat]
    rw [toldBy, ← List.filterMap_append] at hboth
    cases he : e.call.event? with
    | none => simpa [he] using hboth
    | some event =>
      rw [Option.toList_some, OverallProgress.allTold_concat]
      rwa [he] at hboth

end Reading

/-! ## The calls of a watch -/

theorem watchLedger_batched :
    Polling.Batched (reportOverall logWatcher (UInt32.ofNat actions.length))
      (next (UInt32.ofNat actions.length)) .start actions (c.watchLedger rounds l actions s) :=
  Polling.ledger_batched (reportOverall_keeps _) _ _ _ _ _

/-- How the wait of a watch ends. -/
theorem overallWait_ledger :
    (c.polling rounds l).EndOfWait (reportOverall logWatcher (UInt32.ofNat actions.length)) actions
      s rounds (c.overallWait rounds l actions s).1 (c.watchLedger rounds l actions s)
      (c.overallWait rounds l actions s).2 :=
  Polling.poll_ledger _ _ _ _ _ _

/-- What can be read in the log of the wait. -/
theorem reads_overallWait {α : Type} {read : Event → Option α} (hsent : ∀ r, read (.sent r) = none)
    (hjudged : ∀ e n, read (.judged e n) = none) :
    Session.Reads read
      ((allTold (UInt32.ofNat actions.length) .start
        (c.watchLedger rounds l actions s).events).filterMap read)
      s (c.overallWait rounds l actions s).2 := by
  obtain ⟨hfits, hlast⟩ := (c.overallWait_ledger rounds l actions s).traced
  rw [← hlast]
  exact c.reads_last rounds l actions s hsent hjudged hfits
    (c.watchLedger_batched rounds l actions s).reports

/-- **The wait of a watch fails only as requests do**, or because actions are missing. -/
theorem failsOnly_overallWait : FailsOnly Error.OfWait (c.overallWait rounds l actions) := by
  refine FailsOnly.poll (fun n s e h => ?_) (fun ids s e h => ?_) (fun kept event s e h => ?_)
    Error.OfWait.missing rounds _ actions
  · exact .request (Session.failsOnly_pause l c.pollBackoff n s e h)
  · exact .request (c.failsOnly_allActions rounds l (.ofIds ids) s e h)
  · simp only [reportOverall_apply] at h
    split_ifs at h

/-! ## The end of a watch -/

/-- What ends a watch: the end of its wait, if there is one, is told. -/
theorem finished_apply {τ : Type} (t : Task Session τ) (s : Session) :
    Polling.finished logWatcher t s =
      match (t s).1.result? with
      | some result => (.done (), (t s).2.noted (.finished result))
      | none => (.unfinished, (t s).2) := by
  rw [Polling.finished]
  rcases h : t s with ⟨a | e | _, s'⟩
  · rw [Task.bind_done (Task.attempt_done h)]
    rfl
  · rw [Task.bind_done (Task.attempt_failed h)]
    rfl
  · rw [Task.bind_unfinished (Task.attempt_unfinished h)]
    rfl

/-- A watch ends when its wait does, and tells how. -/
theorem watchOverallProgress_apply :
    c.watchOverallProgress rounds l actions s =
      match (c.overallWait rounds l actions s).1.result? with
      | some result => (.done (), (c.overallWait rounds l actions s).2.noted (.finished result))
      | none => (.unfinished, (c.overallWait rounds l actions s).2) :=
  finished_apply _ _

/-- **The results that a watch tells of**: the failures, and then how it has ended. -/
theorem readBetween_result? :
    s.readBetween Event.result? (c.watchOverallProgress rounds l actions s).2 =
      ((c.watchLedger rounds l actions s).updates.filterMap (·.error?)).map
          (fun e => .error (.action e)) ++
        (c.overallWait rounds l actions s).1.result?.toList := by
  have hwait : Session.Reads Event.result? _ s _ :=
    c.reads_overallWait rounds l actions s (fun _ => rfl) fun _ _ => rfl
  rw [OverallProgress.filterMap_result?_allTold, ← Ledger.updates_eq] at hwait
  rw [watchOverallProgress_apply]
  cases (c.overallWait rounds l actions s).1.result? with
  | some result => exact (hwait.trans (.noted (.finished result) _)).readBetween_eq
  | none => exact hwait.readBetween_eq.trans (List.append_nil _).symm

/-- Only finished actions have an error. -/
theorem length_filterMap_error?_le (us : List Action) :
    (us.filterMap (·.error?)).length ≤ (us.filter (·.isFinished)).length := by
  induction us with
  | nil => exact Nat.le_refl _
  | cons a rest ih =>
    rcases he : a.error? with _ | e
    · rw [List.filterMap_cons_none he]
      exact ih.trans ((List.sublist_cons_self a rest).filter _).length_le
    · have herror : a.status = .error := by
        have hsome := a.error?_isSome
        rw [he] at hsome
        simpa using hsome.symm
      have hfinished : a.isFinished = true := by simp [Action.isFinished, Action.isRunning, herror]
      rw [List.filterMap_cons_some he, List.filter_cons_of_pos hfinished]
      exact Nat.succ_le_succ ih

variable {c rounds l actions s}

/-- **No more failures are told of than actions are watched**, if the answers are faithful. -/
theorem length_failures_le (hf : (c.watchLedger rounds l actions s).Faithful) :
    ((c.watchLedger rounds l actions s).updates.filterMap (·.error?)).length ≤ actions.length := by
  have htracks := (c.overallWait_ledger rounds l actions s).traced.tracks hf
  rw [(c.watchLedger_batched rounds l actions s).updates_eq, List.filterMap_append,
    List.length_append, List.length_eq_length_filter_add (l := actions) (·.isFinished)]
  refine Nat.add_le_add ((List.length_filterMap_le _ _)) ?_
  refine (length_filterMap_error?_le _).trans (htracks.length_finished_le.trans (Nat.le_of_eq ?_))
  congr 2
  funext a
  rw [Action.isFinished, Bool.not_not]

end Client

end CloudClient
