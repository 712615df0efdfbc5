import CloudClient.Proofs.Correspondence
import CloudClient.Proofs.Shortening
import CloudClient.Proofs.WatchNews

/-!
# Watching one action

To watch one action is to wait for it, and to tell the news on the way. The two are run next to each
other. They differ in nothing but the news, so the watch sends what the wait sends, ends when the
wait ends, and tells in the end how the wait has ended.

* `Session.SameButNews` — two sessions that differ in the news alone. Whatever a client does that is
  no news, it does alike in both (`Client.corresponds_sameButNews`).
* `Session.Watches` — the news of a watch are samples of what the wait has reported, one by one.
  Every call of the wait keeps this, and so does the whole wait (`Client.relates_watch`).
-/

namespace CloudClient

open CloudClient.Task (Relates)

/-! ## News -/

/-- Is the event told to the caller? -/
def Event.isNews (event : Event) : Bool := event.percent?.isSome || event.result?.isSome

/-- What was noted apart from the news. -/
def withoutNews (noted : List (Moment × Event)) : List (Moment × Event) :=
  noted.filter fun x => !x.2.isNews

/-- News are no round trips. -/
theorem tripsOf_withoutNews (noted : List (Moment × Event)) :
    tripsOf (withoutNews noted) = tripsOf noted := by
  rw [tripsOf, tripsOf, withoutNews, List.filterMap_filter]
  congr 1
  funext entry
  obtain ⟨moment, event⟩ := entry
  cases event <;> rfl

/-- The second session is the first one, but for news that came after the log had been `base`. -/
structure Session.SameButNews (base : List (Moment × Event)) (s s' : Session) : Prop where
  /-- nothing but the log differs -/
  eq_log : s' = { s with log := s'.log }
  /-- and the logs differ in the news alone -/
  logs : ∃ added added', s.log = added ++ base ∧ s'.log = added' ++ base ∧
    withoutNews added' = withoutNews added

namespace Session.SameButNews

variable {base : List (Moment × Event)} {s s' : Session}

theorem refl (s : Session) : s.SameButNews s.log s := ⟨rfl, [], [], rfl, rfl, rfl⟩

theorem now_eq (hs : s.SameButNews base s') : s'.now = s.now := by rw [hs.eq_log]

/-- A change that has nothing to do with the log. -/
theorem update {f : Session → Session} (hf : ∀ (s : Session) log, f { s with log } =
    { f s with log }) (hs : s.SameButNews base s') : (f s).SameButNews base (f s') := by
  have hlog (s : Session) : (f s).log = s.log :=
    (congrArg Session.log (hf s s.log)).trans rfl
  refine ⟨?_, ?_⟩
  · rw [hlog, ← hf, ← hs.eq_log]
  · rw [hlog, hlog]
    exact hs.logs

/-- Both sessions note an event. -/
theorem noted (hs : s.SameButNews base s') (event : Event) :
    (s.noted event).SameButNews base (s'.noted event) := by
  obtain ⟨added, added', hlog, hlog', hsame⟩ := hs.logs
  refine ⟨congrArg (fun x => { x with log := (s'.noted event).log }) hs.eq_log,
    (s.now, event) :: added, (s'.now, event) :: added', ?_, ?_, ?_⟩
  · exact congrArg _ hlog
  · exact congrArg _ hlog'
  · rw [withoutNews, withoutNews, List.filter_cons, List.filter_cons, hs.now_eq,
      ← withoutNews, ← withoutNews, hsame]

/-- The second session gets news. -/
theorem told (hs : s.SameButNews base s') {event : Event} (hnews : event.isNews) :
    s.SameButNews base (s'.noted event) := by
  obtain ⟨added, added', hlog, hlog', hsame⟩ := hs.logs
  refine ⟨congrArg (fun x => { x with log := (s'.noted event).log }) hs.eq_log,
    added, (s'.now, event) :: added', hlog, congrArg _ hlog', ?_⟩
  rw [← hsame, withoutNews, List.filter_cons_of_neg (by simpa using hnews), withoutNews]

/-- The same round trips were started, at the same moments. -/
theorem tripsBetween_eq {start : Session} (hs : s.SameButNews start.log s') :
    start.tripsBetween s' = start.tripsBetween s := by
  obtain ⟨added, added', hlog, hlog', hsame⟩ := hs.logs
  rw [tripsBetween, tripsBetween, notedBetween_of_log_eq hlog, notedBetween_of_log_eq hlog',
    tripsOf_reverse, tripsOf_reverse, ← tripsOf_withoutNews added', hsame, tripsOf_withoutNews]

/-! ### Steps -/

theorem note (event : Event) :
    Relates (SameButNews base) (Session.note event) (Session.note event) :=
  .update fun _ _ hs => hs.noted event

theorem wait (l : Lifetime) (millis : Nat) :
    Relates (SameButNews base) (Session.wait l millis) (Session.wait l millis) :=
  .wait (fun _ _ hs => hs.now_eq) (fun _ _ moment hs =>
    hs.update (f := fun s => { s with now := moment }) fun _ _ => rfl) l millis

theorem pause (l : Lifetime) (b : Backoff) (attempt : Nat) :
    Relates (SameButNews base) (Session.pause l b attempt) (Session.pause l b attempt) :=
  .pause (fun s s' hs => by rw [hs.eq_log]) (wait l) b attempt

theorem send (r : Request) : Relates (SameButNews base) (Session.send r) (Session.send r) := by
  intro s s' hs
  refine ⟨by rw [hs.eq_log]; rfl, ?_⟩
  exact (hs.noted (.sent r)).update (f := fun s => { s with trips := s.trips + 1 }) fun _ _ => rfl

theorem roundTrip (timeout : Option Nat) (r : Request) :
    Relates (SameButNews base) (Session.roundTrip timeout r) (Session.roundTrip timeout r) :=
  .roundTrip rfl rfl (wait r.lifetime) (send r) timeout

theorem transcribe (bytes : Bytes) :
    Relates (SameButNews base) (Session.transcribe bytes) (Session.transcribe bytes) :=
  .update fun _ _ hs => hs.update
    (f := fun s => { s with transcript := s.transcript.write bytes }) fun _ _ => rfl

theorem observe (r : Request) (status : Http.Status) :
    Relates (SameButNews base) (Session.observe r status) (Session.observe r status) :=
  .update fun _ _ hs => hs.update
    (f := fun s => { s with metrics := s.metrics.observe status r.method r.operation })
    fun _ _ => rfl

end Session.SameButNews

/-! ## One client in two sessions -/

namespace Client

open Session (SameButNews)

variable (c : Client)

/-- **A client takes no notice of the news.** -/
theorem corresponds_sameButNews (base : List (Moment × Event)) :
    c.Corresponds (SameButNews base) (fun r r' => r' = r) c where
  retry := rfl
  pollBackoff := rfl
  lifetime hr := by rw [hr]
  parameters hr pairs := by rw [hr]
  request l method path body := by
    cases c.request l method path body with
    | error e => exact .inl ⟨e, rfl, rfl⟩
    | ok r => exact .inr ⟨r, r, rfl, rfl, rfl⟩
  note _ := SameButNews.note _
  pause := SameButNews.pause
  attempt hr := by
    subst hr
    exact attempt_relates rfl rfl rfl (fun s s' hs => by rw [hs.eq_log]; rfl)
      (SameButNews.roundTrip _ _) (SameButNews.observe _) SameButNews.transcribe

end Client

/-! ## A wait and a watch -/

/-- The percentage that a snapshot of a watched action is worth: how far it has come while it runs,
and a hundred when it has succeeded. -/
def Action.sample? (a : Action) : Option UInt32 :=
  match a.status with
  | .running => some a.progress
  | .success => some 100
  | .error => none

/-- The watch has led to the second session, and the wait to the first one, with these calls: the
news of the watch are the samples of what the wait has reported. -/
structure Session.Watches (start : Session) (run : Session × Ledger Session PollCall)
    (s' : Session) : Prop where
  /-- the sessions differ in the news alone -/
  same : run.1.SameButNews start.log s'
  /-- the percentages are the samples -/
  percents : Session.Reads Event.percent? (run.2.updates.filterMap (·.sample?)) start s'
  /-- no end was told of yet -/
  results : Session.Reads Event.result? [] start s'

namespace Session.Watches

variable {start : Session} {α : Type}

/-- What is done alike, and tells no news, may be entered as a call that is no report. -/
theorem entered {t t' : Task Session α} {call : Outcome α → PollCall}
    (ht : Relates (SameButNews start.log) t t')
    (hpercent : NotesOnly (fun event => event.percent? = none) t')
    (hresult : NotesOnly (fun event => event.result? = none) t')
    (hcall : ∀ o, (call o).update? = none) :
    Relates (Watches start) (t.entered call) t' := by
  rintro ⟨s, es⟩ s' hs
  obtain ⟨ho, hsame⟩ := ht s s' hs.same
  refine ⟨ho, hsame, ?_, ?_⟩
  · have hreads := hs.percents.trans (hpercent.reads s')
    rw [Task.entered_apply, Ledger.updates_concat, hcall]
    simpa using hreads
  · exact hs.results.trans (hresult.reads s')

/-- **The wait stops at a snapshot exactly if the watch does**, and else the watch tells the sample
of it. -/
theorem report (event : PollEvent) :
    Relates (Watches start) ((Reporter.ofUpdates Client.stopAtFailure).entered () event)
      (Polling.reportOne Client.logWatcher () event) := by
  rintro ⟨s, es⟩ s' hs
  cases event with
  | pollDone =>
    refine ⟨rfl, hs.same, ?_, hs.results⟩
    have hnone : Ledger.updates (es ++ [⟨.report .pollDone (.done ()), s, s⟩]) = es.updates := by
      rw [Ledger.updates_concat]
      exact List.append_nil _
    exact hnone.symm ▸ hs.percents
  | update a =>
    have hupdates (ended : Outcome Unit) :
        (Ledger.updates (es ++ [⟨.report (.update a) ended, s, s⟩])).filterMap (·.sample?) =
          es.updates.filterMap (·.sample?) ++ a.sample?.toList := by
      rw [Ledger.updates_concat, List.filterMap_append]
      cases h : a.sample? <;> simp [PollCall.update?, h]
    cases herror : a.error? with
    | some e =>
      have hwait : Reporter.ofUpdates Client.stopAtFailure () (.update a) s =
          (.failed (.action e), s) := by
        rw [Reporter.ofUpdates, Client.stopAtFailure, herror]
        rfl
      have hwatch : Polling.reportOne Client.logWatcher () (.update a) s' =
          (.failed (.action e), s') := by
        rw [Polling.reportOne, herror]
        rfl
      rw [Reporter.entered, Task.entered_apply, hwait, hwatch]
      refine ⟨rfl, hs.same, ?_, hs.results⟩
      have hnone : a.sample? = none := by
        cases hstatus : a.status <;> simp [Action.error?, Action.sample?, hstatus] at herror ⊢
      rw [hupdates, hnone, Option.toList_none, List.append_nil]
      exact hs.percents
    | none =>
      have hwait : Reporter.ofUpdates Client.stopAtFailure () (.update a) s = (.done (), s) := by
        rw [Reporter.ofUpdates, Client.stopAtFailure, herror]
        rfl
      have hwatch : Polling.reportOne Client.logWatcher () (.update a) s' =
          (.done (), s'.noted (.progressed a.percent)) := by
        rw [Polling.reportOne, herror]
        rfl
      rw [Reporter.entered, Task.entered_apply, hwait, hwatch]
      refine ⟨rfl, hs.same.told rfl, ?_, hs.results.trans (.noted _ s')⟩
      have hsome : a.sample? = some a.percent := by
        cases hstatus : a.status <;>
          simp [Action.error?, Action.sample?, Action.percent, Action.isRunning, hstatus]
            at herror ⊢
      rw [hupdates, hsome]
      exact hs.percents.trans (.noted (.progressed a.percent) s')

end Session.Watches

namespace Client

open Session (SameButNews Watches)

variable (c : Client) (rounds : Nat) (l : Lifetime) (action : Action) (s : Session)

/-- **A watch goes along with a wait.** -/
theorem relates_watch (start : Session) :
    Relates (Watches start)
      ((c.polling rounds l).entered.poll rounds (Reporter.ofUpdates stopAtFailure).entered ()
        [action])
      ((c.polling rounds l).poll rounds (Polling.reportOne logWatcher) () [action]) := by
  refine .poll (fun n => ?_) (fun ids => ?_) (fun _ event => Watches.report event) rounds ()
    [action]
  · exact Watches.entered (SameButNews.pause l c.pollBackoff n) (Session.notesOnly_pause _ _ _)
      (Session.notesOnly_pause _ _ _) fun _ => rfl
  · exact Watches.entered ((c.corresponds_sameButNews start.log).allActions rounds l (.ofIds ids))
      (c.notesOnly_pages (fun _ _ => rfl) _ _ _ fun _ _ _ => rfl)
      (c.notesOnly_pages (fun _ _ => rfl) _ _ _ fun _ _ _ => rfl) fun _ => rfl

/-- The wait of the watch of one action. -/
def oneWait : Task Session Unit :=
  (c.polling rounds l).poll rounds (Polling.reportOne logWatcher) () [action]

/-- The wait of the watch ends as the wait for the action does, and has told the samples of what
that one has reported. -/
theorem oneWait_watches :
    (c.oneWait rounds l action s).1 = (c.waitFor rounds l [action] s).1 ∧
      s.Watches ((c.waitFor rounds l [action] s).2,
        c.waitLedger rounds l stopAtFailure () [action] s) (c.oneWait rounds l action s).2 := by
  obtain ⟨ho, hwatches⟩ :=
    c.relates_watch rounds l action s (s, []) s ⟨.refl s, .of_log_eq rfl, .of_log_eq rfl⟩
  obtain ⟨hout, hstate⟩ := Polling.mirrors_poll rounds (c.polling rounds l)
    (Reporter.ofUpdates stopAtFailure) () [action] s []
  refine ⟨ho.trans hout, ?_⟩
  have hrun : ((c.waitFor rounds l [action] s).2,
      c.waitLedger rounds l stopAtFailure () [action] s) =
        ((c.polling rounds l).entered.poll rounds (Reporter.ofUpdates stopAtFailure).entered ()
          [action] (s, [])).2 :=
    Prod.ext hstate.symm rfl
  rw [hrun]
  exact hwatches

/-- A watch ends when its wait does, and tells how. -/
theorem watchProgress_apply :
    c.watchProgress rounds l action s =
      match (c.oneWait rounds l action s).1.result? with
      | some result => (.done (), (c.oneWait rounds l action s).2.noted (.finished result))
      | none => (.unfinished, (c.oneWait rounds l action s).2) :=
  finished_apply _ _

/-- **Watching one action is waiting for it.** From any session, a watch sends the requests that the
wait for the action sends, at the same moments, and it is over at the same moment. It tells one
result, which is how the wait has ended, and this is the last thing that it does. The channel for
results has room for it, and delivers it. The percentages that it offers are the samples of the
snapshots that the wait has reported, in order, and the channel for percentages delivers some of
them, in order, however the caller receives. -/
theorem watchProgress_waits :
    s.tripsBetween (c.watchProgress rounds l action s).2 =
        s.tripsBetween (c.waitFor rounds l [action] s).2 ∧
    (c.watchProgress rounds l action s).2.now = (c.waitFor rounds l [action] s).2.now ∧
    s.readBetween Event.result? (c.watchProgress rounds l action s).2 =
      (c.waitFor rounds l [action] s).1.result?.toList ∧
    (∀ result, (c.waitFor rounds l [action] s).1.result? = some result →
      (c.watchProgress rounds l action s).1 = .done () ∧
        (s.notedBetween (c.watchProgress rounds l action s).2).getLast? =
          some ((c.waitFor rounds l [action] s).2.now, .finished result)) ∧
    ((c.waitFor rounds l [action] s).1.result? = none →
      (c.watchProgress rounds l action s).1 = .unfinished) ∧
    Channel.DeliversAll 1 (s.readBetween Event.result? (c.watchProgress rounds l action s).2) ∧
    s.readBetween Event.percent? (c.watchProgress rounds l action s).2 =
      (c.waitLedger rounds l stopAtFailure () [action] s).updates.filterMap (·.sample?) ∧
    Channel.DeliversFirst Delivery.progressRoom
      (s.readBetween Event.percent? (c.watchProgress rounds l action s).2) := by
  obtain ⟨ho, hwatches⟩ := c.oneWait_watches rounds l action s
  rw [watchProgress_apply, ho]
  cases hresult : (c.waitFor rounds l [action] s).1.result? with
  | none =>
    have hnone := hwatches.results.readBetween_eq
    refine ⟨hwatches.same.tripsBetween_eq, hwatches.same.now_eq, hnone, nofun, fun _ => rfl, ?_,
      hwatches.percents.readBetween_eq, Channel.deliversFirst Nat.one_pos _⟩
    rw [hnone]
    exact Channel.deliversAll_of_length_le (Nat.zero_le 1)
  | some result =>
    have hsame : (c.waitFor rounds l [action] s).2.SameButNews s.log
        ((c.oneWait rounds l action s).2.noted (.finished result)) := hwatches.same.told rfl
    have htold : s.readBetween Event.result?
        ((c.oneWait rounds l action s).2.noted (.finished result)) = [result] :=
      (hwatches.results.trans (.noted _ _)).readBetween_eq
    have hpercents : s.readBetween Event.percent?
        ((c.oneWait rounds l action s).2.noted (.finished result)) = _ :=
      (hwatches.percents.trans (.noted _ _)).readBetween_eq
    refine ⟨hsame.tripsBetween_eq, hsame.now_eq, htold, ?_, nofun, ?_, ?_,
      Channel.deliversFirst Nat.one_pos _⟩
    · rintro result' ⟨⟩
      refine ⟨rfl, ?_⟩
      obtain ⟨-, added, -, hlog, -⟩ := hwatches.same.logs
      have hlog' : ((c.oneWait rounds l action s).2.noted (.finished result)).log =
          ((c.oneWait rounds l action s).2.now, .finished result) :: added ++ s.log :=
        congrArg _ hlog
      rw [Session.notedBetween_of_log_eq hlog', List.reverse_cons, List.getLast?_concat,
        hwatches.same.now_eq]
    · rw [htold]
      exact Channel.deliversAll_of_length_le (Nat.le_refl 1)
    · rw [hpercents]
      exact List.append_nil _

end Client

namespace Loopback

/-- A session in which an action is seen at forty percent, and then as failed. -/
def halfwaySession : Session :=
  session [listing [{ snapshot 1 .running with progress := 40 }], listing [snapshot 1 .error]]

/-- The watch of this action sends the two requests that the wait for it sends, offers forty, and
delivers the failure of the action as its only result. -/
theorem watchProgress_waits_halfway :
    halfwaySession.tripsBetween
        (client.watchProgress 3 .unbounded (snapshot 1 .running) halfwaySession).2 =
      halfwaySession.tripsBetween
        (client.waitFor 3 .unbounded [snapshot 1 .running] halfwaySession).2 ∧
    (halfwaySession.tripsBetween
      (client.waitFor 3 .unbounded [snapshot 1 .running] halfwaySession).2).length = 2 ∧
    halfwaySession.readBetween Event.result?
        (client.watchProgress 3 .unbounded (snapshot 1 .running) halfwaySession).2 =
      [.error (.action (failure 1))] ∧
    halfwaySession.readBetween Event.percent?
        (client.watchProgress 3 .unbounded (snapshot 1 .running) halfwaySession).2 = [40] := by
  obtain ⟨htrips, -, hresults, -, -, -, hpercents, -⟩ :=
    client.watchProgress_waits 3 .unbounded (snapshot 1 .running) halfwaySession
  have hupdates : (client.waitLedger 3 .unbounded Client.stopAtFailure () [snapshot 1 .running]
      halfwaySession).updates =
        [{ snapshot 1 .running with progress := 40 }, snapshot 1 .error] := by
    decide +kernel
  have hfailed : (match (client.waitFor 3 .unbounded [snapshot 1 .running] halfwaySession).1 with
      | .failed (.action e) => decide (e = failure 1)
      | _ => false) = true := by
    decide +kernel
  refine ⟨htrips, by decide +kernel, ?_, ?_⟩
  · rw [hresults]
    split at hfailed
    · next e ho =>
      rw [ho, of_decide_eq_true hfailed]
      rfl
    · cases hfailed
  · rw [hpercents, hupdates]
    decide

end Loopback

end CloudClient
