import CloudClient.Proofs.ClientWait
import CloudClient.Proofs.Shortening

/-!
# Lifetimes only truncate

A lifetime does nothing to an operation but cut it off. Up to its end, the operation does the same
as it would do without an end: it starts the same round trips at the same moments. If it is over
before, it is over in the same way. If not, it fails at the very moment at which the lifetime ends,
with the error that says how, and it starts no round trip from this moment on.

`Shortens` is shown for each layer of the client in turn, from one round trip up to a whole wait
(`Client.shortens_poll`). `Client.lifetime_truncates` sums it up for all operations. Nothing is
assumed about the retry rule: a rule that takes the end of the lifetime for worth another attempt is
of no avail, because the pause before this attempt is barred.
-/

namespace CloudClient

variable {l : Lifetime} {T : Moment} {e : Ending} {base : List (Moment × Event)} {α τ : Type}

/-! ## Round trips -/

namespace Session

theorem shortens_receive (hend : l.end? = some (T, e)) (reply : Reply) :
    Shortens l T e base (receive .unbounded reply) (receive l reply) := by
  rcases reply with error | ⟨status, headers, bodyDelay, error | bytes⟩
  · exact .fail _
  · exact .bind (.wait hend bodyDelay) fun _ => .fail _
  · exact .bind (.wait hend bodyDelay) fun _ => .pure _

/-- The head and the body of an answer are waited for within the lifetime. -/
theorem shortens_roundTrip (hend : l.end? = some (T, e)) (timeout : Option Nat) (r : Request) :
    Shortens l T e base (roundTrip timeout (r.withLifetime .unbounded))
      (roundTrip timeout (r.withLifetime l)) := by
  refine .bind (.wait hend 0) fun _ => ?_
  by_cases hhost : r.url.hostText?.isNone
  · exact (if_pos hhost).symm ▸ (if_pos hhost).symm ▸ .fail _
  · have hsend : Shortens l T e base (send (r.withLifetime .unbounded) >>= fun exchange =>
        wait .unbounded (exchange.within timeout).delay >>= fun _ =>
          receive .unbounded (exchange.within timeout).reply)
        (send (r.withLifetime l) >>= fun exchange =>
          wait l (exchange.within timeout).delay >>= fun _ =>
            receive l (exchange.within timeout).reply) :=
      .bind (.send (r.withLifetime .unbounded)) fun _ => .bind (.wait hend _) fun _ =>
        shortens_receive hend _
    exact (if_neg hhost).symm ▸ (if_neg hhost).symm ▸ hsend

theorem shortens_transcribe (bytes : Bytes) :
    Shortens l T e base (transcribe bytes) (transcribe bytes) :=
  .update fun _ _ => ⟨rfl, rfl, rfl, rfl⟩

theorem shortens_observe (r : Request) (status : Http.Status) :
    Shortens l T e base (observe r status) (observe r status) :=
  .update fun _ _ => ⟨rfl, rfl, rfl, rfl⟩

end Session

namespace Client

variable (c : Client)

theorem shortens_countedTrip (hend : l.end? = some (T, e)) (r : Request) :
    Shortens l T e base (c.countedTrip (r.withLifetime .unbounded))
      (c.countedTrip (r.withLifetime l)) := by
  refine .bind (Session.shortens_roundTrip hend c.timeout r) fun response => ?_
  cases c.isInstrumented with
  | true => exact .bind (Session.shortens_observe r response.status) fun _ => .pure _
  | false => exact .bind (.pure ()) fun _ => .pure _

theorem shortens_judgedTrip (hend : l.end? = some (T, e)) (r : Request) :
    Shortens l T e base (c.judgedTrip (r.withLifetime .unbounded))
      (c.judgedTrip (r.withLifetime l)) := by
  refine .bind (c.shortens_countedTrip hend r) fun response => ?_
  let verdict (now : Nat) : Task Session Response := Task.ofExcept (response.limited now).verdict
  refine .state_bind Session.timeOfDay verdict verdict ?_ fun now => .ofExcept _
  rintro s s' ⟨-, added, -, -, rfl⟩
  rfl

theorem shortens_transcribeOutcome (outcome : Except Error Response) :
    Shortens l T e base (transcribeOutcome outcome) (transcribeOutcome outcome) := by
  cases outcome with
  | ok response => exact Session.shortens_transcribe _
  | error error =>
    rw [transcribeOutcome]
    split
    · exact Session.shortens_transcribe _
    · exact .pure _

theorem shortens_attempt (hend : l.end? = some (T, e)) (r : Request) :
    Shortens l T e base (c.attempt (r.withLifetime .unbounded)) (c.attempt (r.withLifetime l)) := by
  rw [attempt, attempt]
  split
  · refine .bind (Session.shortens_transcribe (Transcript.requestEntry r)) fun _ => ?_
    refine .attempt_bind (c.shortens_judgedTrip hend r) (fun outcome => ?_) Barred.fail
    exact .bind (shortens_transcribeOutcome outcome) fun _ => .ofExcept outcome
  · exact c.shortens_judgedTrip hend r

/-! ## Retries -/

theorem shortens_judge (error : Error) (attempt : Nat) :
    Shortens l T e base (c.judge error attempt) (c.judge error attempt) :=
  .bind (.note rfl) fun _ => .pure _

/-- The end of the lifetime is judged like any other error, and what comes next is barred by it. -/
theorem shortens_tryOnce {r r' : Request} (attempt : Nat)
    {next next' : Error → Task Session Response}
    (hsend : Shortens l T e base (c.attempt r) (c.attempt r'))
    (hnext : ∀ error, Shortens l T e base (next error) (next' error))
    (hbarred : Barred T e (next' (.ended e))) :
    Shortens l T e base (tryOnce c.judge c.attempt r attempt next)
      (tryOnce c.judge c.attempt r' attempt next') := by
  refine .attempt_bind hsend (fun outcome => ?_) ?_
  · cases outcome with
    | ok response => exact .pure response
    | error error =>
      refine .bind (c.shortens_judge error attempt) fun again => ?_
      cases again with
      | true => exact hnext error
      | false => exact .fail error
  · have hjudged : Barred T e (if c.retry.rule (.ended e) attempt then next' (.ended e)
        else Task.fail (.ended e)) := by
      split
      · exact hbarred
      · exact .fail
    exact hjudged.note_bind (.judged (.ended e) attempt) rfl

theorem shortens_retryFrom (hend : l.end? = some (T, e)) (r : Request) (left attempt : Nat) :
    Shortens l T e base
      (retryFrom c.judge (Session.pause .unbounded c.retry.backoff) c.attempt
        (r.withLifetime .unbounded) left attempt)
      (retryFrom c.judge (Session.pause l c.retry.backoff) c.attempt (r.withLifetime l) left
        attempt) := by
  induction left generalizing attempt with
  | zero => exact c.shortens_tryOnce attempt (c.shortens_attempt hend r) (fun _ => .fail _) .fail
  | succ left ih =>
    refine c.shortens_tryOnce attempt (c.shortens_attempt hend r) (fun _ => ?_) ?_
    · exact .bind (.pause hend c.retry.backoff attempt) fun _ => ih (attempt + 1)
    · exact .bind (.pause hend c.retry.backoff attempt)

theorem shortens_execute (hend : l.end? = some (T, e)) (r : Request) :
    Shortens l T e base (c.execute (r.withLifetime .unbounded)) (c.execute (r.withLifetime l)) :=
  .bind (c.shortens_retryFrom hend r c.retry.limit 0) fun _ => .ofExcept _

theorem shortens_executeJson (hend : l.end? = some (T, e)) (read : Json.Tree → Option α)
    (r : Request) :
    Shortens l T e base (c.executeJson read (r.withLifetime .unbounded))
      (c.executeJson read (r.withLifetime l)) :=
  .bind (c.shortens_execute hend r) fun _ => .bind (.ofExcept _) fun _ => .pure _

/-! ## Actions -/

/-- In any lifetime the client makes the same request, or none for the same reason. -/
theorem exists_request_eq (method path : String) (body : Option Bytes) :
    ∃ made : Except Error Request,
      ∀ l, c.request l method path body = made.map (·.withLifetime l) := by
  refine ⟨c.request .unbounded method path body, fun l => ?_⟩
  rw [request, request]
  split <;> rfl

theorem exists_actionsRequest_eq (f : ActionFilter) :
    ∃ made : Except Error Request, ∀ l, c.actionsRequest l f = made.map (·.withLifetime l) := by
  obtain ⟨made, hmade⟩ := c.exists_request_eq "GET" actionsPath none
  refine ⟨made.map (·.withParameters f.pairs), fun l => ?_⟩
  rw [actionsRequest, hmade]
  cases made <;> rfl

/-- What is done with a request that the client has made, if it could make one. -/
theorem shortens_ofExcept_bind (made : Except Error Request) {f : Request → Task Session α}
    (hf : ∀ r : Request,
      Shortens l T e base (f (r.withLifetime .unbounded)) (f (r.withLifetime l))) :
    Shortens l T e base (Task.ofExcept (made.map (·.withLifetime .unbounded)) >>= f)
      (Task.ofExcept (made.map (·.withLifetime l)) >>= f) := by
  cases made with
  | error error => exact ⟨fun s => .refl s, fun s s' hs hlt => .inl ⟨hlt, rfl, hs⟩⟩
  | ok r => exact hf r

theorem shortens_actions (hend : l.end? = some (T, e)) (f : ActionFilter) :
    Shortens l T e base (c.actions .unbounded f) (c.actions l f) := by
  obtain ⟨made, hmade⟩ := c.exists_actionsRequest_eq f
  rw [actions, actions, hmade, hmade]
  exact shortens_ofExcept_bind _ fun r =>
    .bind (c.shortens_executeJson hend _ r) fun _ => .pure _

/-- Each page is asked for within the lifetime. -/
theorem shortens_allActions (hend : l.end? = some (T, e)) (rounds : Nat) (f : ActionFilter) :
    Shortens l T e base (c.allActions rounds .unbounded f) (c.allActions rounds l f) := by
  rw [allActions, allActions, Paging.collect, Paging.collect]
  generalize 1 = number
  induction rounds generalizing number with
  | zero => exact .giveUp
  | succ rounds ih =>
    refine .bind (c.shortens_actions hend (f.atPage number)) fun page => ?_
    cases page.next? with
    | none => exact .pure _
    | some next => exact .bind (ih next) fun _ => .pure _

/-- The end of the lifetime is no answer that there is no such action. -/
theorem shortens_action (hend : l.end? = some (T, e)) (id : Int) :
    Shortens l T e base (c.action .unbounded id) (c.action l id) := by
  obtain ⟨made, hmade⟩ := c.exists_request_eq "GET" (actionPath id) none
  rw [action, action, hmade, hmade]
  refine shortens_ofExcept_bind _ fun r => ?_
  refine .attempt_bind (c.shortens_executeJson hend _ r) (fun outcome => ?_) Barred.fail
  cases outcome with
  | ok found => exact .pure _
  | error error =>
    change Shortens l T e base (missingAction error) (missingAction error)
    unfold missingAction
    split
    · exact .pure _
    · exact .fail _

/-! ## Waits -/

/-- Does a function that is given the snapshots of a wait take no time and send nothing? It may look
at the clock, and what it notes and keeps may depend on what it has been given so far, but on
nothing else. -/
def Instantaneous (report : τ → Action → Task Session τ) : Prop :=
  ∀ kept a now, ∃ (outcome : Outcome τ) (noted : List Event), (∀ x ∈ noted, x.request? = none) ∧
    ∀ s : Session, s.now = now →
      report kept a s = (outcome, { s with log := noted.map (fun x => (now, x)) ++ s.log })

theorem Instantaneous.shortens {report : τ → Action → Task Session τ} (h : Instantaneous report)
    (kept : τ) (a : Action) : Shortens l T e base (report kept a) (report kept a) := by
  refine .of_alike (fun s => ?_) fun s s' hs => ?_
  · obtain ⟨outcome, noted, -, hreport⟩ := h kept a s.now
    rw [hreport s rfl]
    refine ⟨Nat.le_refl _, _, rfl, fun x hx => ?_⟩
    obtain ⟨event, -, rfl⟩ := List.mem_map.1 hx
    exact Nat.le_refl _
  · obtain ⟨hblind, added, hlog, hadded, rfl⟩ := hs
    obtain ⟨outcome, noted, hnoted, hreport⟩ := h kept a s.now
    have hreport' :=
      hreport { s with log := (added.map fun x => (x.1, x.2.inLifetime l)) ++ base } rfl
    rw [hreport s rfl, hreport']
    refine ⟨rfl, rfl, hblind, noted.map (fun x => (s.now, x)) ++ added, ?_, ?_, ?_⟩
    · rw [hlog, List.append_assoc]
    · intro x hx
      rcases List.mem_append.1 hx with hx | hx
      · obtain ⟨event, -, rfl⟩ := List.mem_map.1 hx
        exact Nat.le_refl _
      · exact hadded x hx
    · have hsame : (noted.map fun x => (s.now, x)).map (fun x => (x.1, x.2.inLifetime l)) =
          noted.map fun x => (s.now, x) := by
        rw [List.map_map]
        refine List.map_congr_left fun event hevent => ?_
        rw [Function.comp_apply, Event.inLifetime_of_request?_eq_none (hnoted event hevent)]
      rw [List.map_append, hsame, List.append_assoc]

variable {report : τ → Action → Task Session τ}

theorem shortens_reportAll (hreport : Instantaneous report) (kept : τ) (updates : List Action) :
    Shortens l T e base (Polling.reportAll (.ofUpdates report) kept updates)
      (Polling.reportAll (.ofUpdates report) kept updates) := by
  induction updates generalizing kept with
  | nil => exact .pure kept
  | cons a rest ih => exact .bind (hreport.shortens kept a) fun kept => ih kept

theorem shortens_once (hend : l.end? = some (T, e)) (hreport : Instantaneous report)
    (rounds number : Nat) (running : List Int) (kept : τ) :
    Shortens l T e base
      ((c.polling rounds .unbounded).once (.ofUpdates report) number running kept)
      ((c.polling rounds l).once (.ofUpdates report) number running kept) := by
  refine .bind (.pause hend c.pollBackoff number) fun _ =>
    .bind (c.shortens_allActions hend rounds (.ofIds running)) fun updates => ?_
  split
  · exact .bind (shortens_reportAll hreport kept updates) fun kept => .bind (.pure kept) fun _ =>
      .pure _
  · exact .fail _

theorem shortens_loop (hend : l.end? = some (T, e)) (hreport : Instantaneous report)
    (rounds polls number : Nat) (running : List Int) (kept : τ) :
    Shortens l T e base
      ((c.polling rounds .unbounded).loop (.ofUpdates report) polls number running kept)
      ((c.polling rounds l).loop (.ofUpdates report) polls number running kept) := by
  induction polls generalizing number running kept with
  | zero =>
    cases running with
    | nil => exact .pure kept
    | cons id rest => exact .giveUp
  | succ polls ih =>
    cases running with
    | nil => exact .pure kept
    | cons id rest =>
      exact .bind (c.shortens_once hend hreport rounds number (id :: rest) kept) fun r =>
        ih (number + 1) r.1 r.2

/-- Pauses, questions and reports are all that a wait is made of. -/
theorem shortens_waitReporting (hend : l.end? = some (T, e)) (hreport : Instantaneous report)
    (rounds : Nat) (kept : τ) (actions : List Action) :
    Shortens l T e base (c.waitReporting rounds .unbounded report kept actions)
      (c.waitReporting rounds l report kept actions) :=
  .bind (shortens_reportAll hreport kept _) fun kept => .bind (.pure kept) fun kept =>
    c.shortens_loop hend hreport rounds rounds 0 (Polling.runningIds actions) kept

theorem instantaneous_stopAtFailure : Instantaneous stopAtFailure := by
  intro kept a now
  rw [stopAtFailure]
  cases a.error? with
  | some error => exact ⟨.failed (.action error), [], by simp, fun s _ => rfl⟩
  | none => exact ⟨.done (), [], by simp, fun s _ => rfl⟩

end Client

/-! ## All operations -/

/-- How a run of an operation from the session `s` is cut off by a lifetime that ends at `T`: the
first run is that without an end, and the second one is that in the lifetime. -/
structure Truncated (l : Lifetime) (T : Moment) (e : Ending) (s : Session)
    (run run' : Outcome α × Session) : Prop where
  /-- the same round trips are started before `T` at the same moments with the same requests, and
  none from `T` on -/
  trips_eq : s.tripsBetween run'.2 =
    ((s.tripsBetween run.2).filter (·.1 < T)).map fun trip => (trip.1, trip.2.withLifetime l)
  /-- what is over before `T` is over at the same moment in the same way -/
  of_lt : run.2.now < T → run'.1 = run.1 ∧ run'.2.now = run.2.now
  /-- what is not over before `T` fails at `T` -/
  of_le : T ≤ run.2.now → run'.1 = .failed (.ended e) ∧ run'.2.now = T

/-- The same trips, the earliest one first. -/
theorem tripsBetween_eq {s s₁ s₁' : Session} (h : ∃ added added', s₁.log = added ++ s.log ∧
      s₁'.log = added' ++ s.log ∧ tripsOf added' =
        ((tripsOf added).filter (·.1 < T)).map fun trip => (trip.1, trip.2.withLifetime l)) :
    s.tripsBetween s₁' =
      ((s.tripsBetween s₁).filter (·.1 < T)).map fun trip => (trip.1, trip.2.withLifetime l) := by
  obtain ⟨added, added', hlog, hlog', htrips⟩ := h
  rw [Session.tripsBetween, Session.tripsBetween, Session.notedBetween_of_log_eq hlog,
    Session.notedBetween_of_log_eq hlog', tripsOf_reverse, tripsOf_reverse, htrips,
    List.filter_reverse, List.map_reverse]

/-- **Two runs from the same session** are alike up to the end of the lifetime. -/
theorem Shortens.truncated {s : Session} {t t' : Task Session α} (h : Shortens l T e s.log t t')
    (hnet : s.surroundings.network.IgnoresLifetimes) (hs : s.now < T) :
    Truncated l T e s (t s) (t' s) := by
  rcases h.run s s ⟨hnet, [], rfl, by simp, rfl⟩ hs with ⟨hlt, ho, halike⟩ | ⟨ho, hstopped⟩
  · have hnow : (t' s).2.now = (t s).2.now := halike.now_eq
    exact ⟨tripsBetween_eq (halike.stopped hlt (Nat.le_refl T)).trips, fun _ => ⟨ho, hnow⟩,
      fun hle => absurd hlt (not_lt.2 hle)⟩
  · exact ⟨tripsBetween_eq hstopped.trips, fun hlt => absurd hlt (not_lt.2 hstopped.le_now),
      fun _ => ⟨ho, hstopped.now_eq⟩⟩

namespace Client

variable (c : Client)

/-- **A lifetime only truncates.** Any operation of a client is run twice from the same session, in
a lifetime without an end and in one that ends at `T`, later than now. Whatever the network does,
and whatever the retry rule says, the second run starts just the round trips that the first one
starts before `T`, with the same requests at the same moments; if the first run is over before `T`,
the second one ends as it does, and at the same moment; and if not, the second one fails at `T` with
the ending of the lifetime. -/
theorem lifetime_truncates {s : Session} (hnet : s.surroundings.network.IgnoresLifetimes)
    (hend : l.end? = some (T, e)) (hs : s.now < T) :
    (∀ r : Request, Truncated l T e s (c.execute (r.withLifetime .unbounded) s)
      (c.execute (r.withLifetime l) s)) ∧
    (∀ (α : Type) (read : Json.Tree → Option α) (r : Request),
      Truncated l T e s (c.executeJson read (r.withLifetime .unbounded) s)
        (c.executeJson read (r.withLifetime l) s)) ∧
    (∀ f, Truncated l T e s (c.actions .unbounded f s) (c.actions l f s)) ∧
    (∀ id, Truncated l T e s (c.action .unbounded id s) (c.action l id s)) ∧
    ∀ rounds,
      (∀ f, Truncated l T e s (c.allActions rounds .unbounded f s) (c.allActions rounds l f s)) ∧
      (∀ actions, Truncated l T e s (c.waitFor rounds .unbounded actions s)
        (c.waitFor rounds l actions s)) ∧
      ∀ (τ : Type) (report : τ → Action → Task Session τ) (kept : τ) (actions : List Action),
        Instantaneous report →
        Truncated l T e s (c.waitReporting rounds .unbounded report kept actions s)
          (c.waitReporting rounds l report kept actions s) := by
  refine ⟨fun r => ?_, fun α read r => ?_, fun f => ?_, fun id => ?_, fun rounds =>
    ⟨fun f => ?_, fun actions => ?_, fun τ report kept actions hreport => ?_⟩⟩
  · exact (c.shortens_execute hend r).truncated hnet hs
  · exact (c.shortens_executeJson hend read r).truncated hnet hs
  · exact (c.shortens_actions hend f).truncated hnet hs
  · exact (c.shortens_action hend id).truncated hnet hs
  · exact (c.shortens_allActions hend rounds f).truncated hnet hs
  · exact (c.shortens_waitReporting hend instantaneous_stopAtFailure rounds () actions).truncated
      hnet hs
  · exact (c.shortens_waitReporting hend hreport rounds kept actions).truncated hnet hs

end Client

namespace Loopback

/-- A wait for two polls, of which the second one would come after the deadline. -/
theorem lifetime_truncates_uneven :
    let l : Lifetime := ⟨none, some 700⟩
    unevenSession.surroundings.network.IgnoresLifetimes ∧ l.end? = some (700, .deadlineExceeded) ∧
      (client.waitFor 2 .unbounded tracked unevenSession).2.now = 1000 ∧
      (client.waitFor 2 l tracked unevenSession).1 = .failed (.ended .deadlineExceeded) ∧
      (client.waitFor 2 l tracked unevenSession).2.now = 700 ∧
      (unevenSession.tripsBetween (client.waitFor 2 l tracked unevenSession).2).map (·.1) =
        [500] := by
  intro l
  have hnet : unevenSession.surroundings.network.IgnoresLifetimes := fun _ _ _ => rfl
  have hend : l.end? = some (700, .deadlineExceeded) := rfl
  obtain ⟨-, -, -, -, hall⟩ :=
    client.lifetime_truncates (s := unevenSession) hnet hend (by decide)
  obtain ⟨-, hwait, -⟩ := hall 2
  obtain ⟨htrips, -, hended⟩ := hwait tracked
  have hnow : (client.waitFor 2 .unbounded tracked unevenSession).2.now = 1000 := by
    decide +kernel
  have hstarted : (unevenSession.tripsBetween
      (client.waitFor 2 .unbounded tracked unevenSession).2).map (·.1) = [500, 1000] := by
    decide +kernel
  obtain ⟨hfailed, hnow'⟩ := hended (by rw [hnow]; decide)
  refine ⟨hnet, hend, hnow, hfailed, hnow', ?_⟩
  have hearly := congrArg (List.filter (· < 700)) hstarted
  rw [List.filter_map] at hearly
  rw [htrips, List.map_map]
  exact hearly

end Loopback

end CloudClient
