import CloudClient.Client.Actions

/-!
# What operations fail with

An operation that only sends requests can fail in so many ways: on the way, by what is answered, for
the URL it makes, and by the end of its lifetime (`Error.OfRequest`). What an action does, or what a
caller reports, is not among them. So from the error of a wait it can be told which part of the
wait has failed.

A task *fails only* with errors of a kind if that holds in every state. This is kept by everything
that tasks are made of. An error that is caught was of that kind, too (`FailsOnly.attempt_bind`).
-/

namespace CloudClient

/-- What a request can fail with. -/
inductive Error.OfRequest : Error → Prop
  | network (cause : NetworkError) : OfRequest (.network cause)
  | status (response : Response) : OfRequest (.status response)
  | api (cause : ApiError) : OfRequest (.api cause)
  | undecodable (status : Http.Status) (body : String) (fault : Option Json.Fault) :
    OfRequest (.undecodable status body fault)
  | invalidUrl (cause : UrlError) : OfRequest (.invalidUrl cause)
  | ended (ending : Ending) : OfRequest (.ended ending)

/-- What a wait can fail with that no report ends. -/
inductive Error.OfWait : Error → Prop
  | request {e : Error} (h : e.OfRequest) : OfWait e
  | missing (ids : List Int) : OfWait (.actionsNotFound ids)

variable {σ ρ α β : Type} {Q : Error → Prop}

/-- Every error that the task fails with has the property. -/
def FailsOnly (Q : Error → Prop) (t : Task σ α) : Prop := ∀ s e, (t s).1 = .failed e → Q e

namespace FailsOnly

/-! ## Tasks in general -/

theorem pure (a : α) : FailsOnly Q (Pure.pure a : Task σ α) := by
  intro s e h
  cases h

theorem fail {e : Error} (h : Q e) : FailsOnly Q (Task.fail e : Task σ α) := by
  intro s e' he
  cases he
  exact h

theorem giveUp : FailsOnly Q (Task.giveUp : Task σ α) := by
  intro s e h
  cases h

theorem state : FailsOnly Q (Task.state : Task σ σ) := by
  intro s e h
  cases h

theorem update (f : σ → σ) : FailsOnly Q (Task.update f) := by
  intro s e h
  cases h

theorem ofExcept {r : Except Error α} (h : ∀ e, r = .error e → Q e) :
    FailsOnly Q (Task.ofExcept r : Task σ α) := by
  cases r with
  | ok a => exact pure a
  | error e => exact fail (h e rfl)

theorem bind {t : Task σ α} {f : α → Task σ β} (ht : FailsOnly Q t)
    (hf : ∀ a, FailsOnly Q (f a)) : FailsOnly Q (t >>= f) := by
  intro s e he
  rcases h : t s with ⟨a | e' | _, s'⟩
  · rw [Task.bind_done h] at he
    exact hf a s' e he
  · rw [Task.bind_failed h] at he
    cases he
    exact ht s e (congrArg Prod.fst h)
  · rw [Task.bind_unfinished h] at he
    cases he

/-- What is caught and then looked at has been a failure of the task. -/
theorem attempt_bind {t : Task σ α} {f : Except Error α → Task σ β} (ht : FailsOnly Q t)
    (hok : ∀ a, FailsOnly Q (f (.ok a))) (herror : ∀ e, Q e → FailsOnly Q (f (.error e))) :
    FailsOnly Q (t.attempt >>= f) := by
  intro s e he
  rcases h : t s with ⟨a | e' | _, s'⟩
  · rw [Task.bind_done (Task.attempt_done h)] at he
    exact hok a s' e he
  · rw [Task.bind_done (Task.attempt_failed h)] at he
    exact herror e' (ht s e' (congrArg Prod.fst h)) s' e he
  · rw [Task.bind_unfinished (Task.attempt_unfinished h)] at he
    cases he

/-! ## Retries and pages -/

section Retries

variable {judge : Error → Nat → Task σ Bool} {pause : Nat → Task σ Unit} {send : ρ → Task σ α}
  {request : ρ}

theorem tryOnce (hjudge : ∀ e n, FailsOnly Q (judge e n)) (hsend : FailsOnly Q (send request))
    (attempt : Nat) {next : Error → Task σ α} (hnext : ∀ e, Q e → FailsOnly Q (next e)) :
    FailsOnly Q (tryOnce judge send request attempt next) := by
  refine hsend.attempt_bind (fun a => .pure a) fun e he => .bind (hjudge e attempt) fun again => ?_
  cases again with
  | true => exact hnext e he
  | false => exact .fail he

theorem retryFrom (hjudge : ∀ e n, FailsOnly Q (judge e n)) (hpause : ∀ n, FailsOnly Q (pause n))
    (hsend : FailsOnly Q (send request)) (left attempt : Nat) :
    FailsOnly Q (retryFrom judge pause send request left attempt) := by
  induction left generalizing attempt with
  | zero => exact tryOnce hjudge hsend attempt fun e he => .fail he
  | succ left ih =>
    exact tryOnce hjudge hsend attempt fun _ _ => .bind (hpause attempt) fun _ => ih (attempt + 1)

end Retries

theorem collectFrom {fetch : Nat → Task σ (Page α)} (hfetch : ∀ page, FailsOnly Q (fetch page))
    (rounds number : Nat) : FailsOnly Q (Paging.collectFrom fetch rounds number) := by
  induction rounds generalizing number with
  | zero => exact .giveUp
  | succ rounds ih =>
    refine .bind (hfetch number) fun page => ?_
    split
    · exact .pure _
    · exact .bind (ih _) fun _ => .pure _

/-! ## Waits -/

section Waits

variable {τ : Type} {p : Polling σ} {report : Reporter σ τ}

theorem reportAll (hreport : ∀ kept event, FailsOnly Q (report kept event)) (kept : τ)
    (us : List Action) : FailsOnly Q (Polling.reportAll report kept us) := by
  induction us generalizing kept with
  | nil => exact .pure kept
  | cons a rest ih => exact .bind (hreport kept (.update a)) fun kept => ih kept

theorem once (hpause : ∀ n, FailsOnly Q (p.pause n)) (hfetch : ∀ ids, FailsOnly Q (p.fetch ids))
    (hreport : ∀ kept event, FailsOnly Q (report kept event))
    (hmissing : ∀ ids, Q (.actionsNotFound ids)) (number : Nat) (running : List Int) (kept : τ) :
    FailsOnly Q (p.once report number running kept) := by
  refine .bind (hpause number) fun _ => .bind (hfetch running) fun us => ?_
  split
  · exact .bind (reportAll hreport kept us) fun kept => .bind (hreport kept .pollDone) fun _ =>
      .pure _
  · exact .fail (hmissing _)

theorem loop (hpause : ∀ n, FailsOnly Q (p.pause n)) (hfetch : ∀ ids, FailsOnly Q (p.fetch ids))
    (hreport : ∀ kept event, FailsOnly Q (report kept event))
    (hmissing : ∀ ids, Q (.actionsNotFound ids)) (rounds number : Nat) (running : List Int)
    (kept : τ) : FailsOnly Q (p.loop report rounds number running kept) := by
  induction rounds generalizing number running kept with
  | zero =>
    cases running with
    | nil => exact .pure kept
    | cons id rest => exact .giveUp
  | succ rounds ih =>
    cases running with
    | nil => exact .pure kept
    | cons id rest =>
      exact .bind (once hpause hfetch hreport hmissing number (id :: rest) kept) fun r =>
        ih _ r.1 r.2

/-- **A wait fails as its parts do**, or because actions are missing. -/
theorem poll (hpause : ∀ n, FailsOnly Q (p.pause n)) (hfetch : ∀ ids, FailsOnly Q (p.fetch ids))
    (hreport : ∀ kept event, FailsOnly Q (report kept event))
    (hmissing : ∀ ids, Q (.actionsNotFound ids)) (rounds : Nat) (kept : τ)
    (actions : List Action) : FailsOnly Q (Polling.poll rounds p report kept actions) :=
  .bind (reportAll hreport kept _) fun kept => .bind (hreport kept .pollDone) fun kept =>
    loop hpause hfetch hreport hmissing rounds 0 (Polling.runningIds actions) kept

end Waits

end FailsOnly

open Error (OfRequest)

/-! ## Round trips -/

namespace Session

theorem failsOnly_wait (l : Lifetime) (millis : Nat) : FailsOnly OfRequest (wait l millis) := by
  intro s e he
  rw [wait] at he
  rcases h : l.wait s.now millis with ⟨moment, _ | ending⟩ <;> rw [h] at he <;> cases he
  exact .ended ending

theorem failsOnly_pause (l : Lifetime) (b : Backoff) (attempt : Nat) :
    FailsOnly OfRequest (pause l b attempt) :=
  .bind .state fun _ => failsOnly_wait l _

theorem failsOnly_send (r : Request) : FailsOnly OfRequest (send r) := by
  intro s e he
  cases he

theorem failsOnly_receive (l : Lifetime) (reply : Reply) :
    FailsOnly OfRequest (receive l reply) := by
  rcases reply with e | ⟨status, headers, bodyDelay, e | bytes⟩
  · exact .fail (.network e)
  · exact .bind (failsOnly_wait l bodyDelay) fun _ => .fail (.network e)
  · exact .bind (failsOnly_wait l bodyDelay) fun _ => .pure _

/-- **A round trip fails on the way, or by the end of the lifetime.** -/
theorem failsOnly_roundTrip (timeout : Option Nat) (r : Request) :
    FailsOnly OfRequest (roundTrip timeout r) := by
  refine .bind (failsOnly_wait r.lifetime 0) fun _ => ?_
  split
  · exact .fail (.network .noHost)
  · exact .bind (failsOnly_send r) fun _ => .bind (failsOnly_wait _ _) fun _ =>
      failsOnly_receive _ _

end Session

namespace Response

variable {r : Response} {e : Error}

theorem ofRequest_error (r : Response) : OfRequest r.error := by
  rw [error]
  split
  · exact .api _
  · exact .status r

theorem ofRequest_of_verdict (h : r.verdict = .error e) : OfRequest e := by
  rw [verdict] at h
  split at h <;> cases h
  exact r.ofRequest_error

theorem ofRequest_of_decoded {read : Json.Tree → Option α} (h : r.decoded read = .error e) :
    OfRequest e := by
  rw [decoded] at h
  split at h <;> cases h
  exact .undecodable _ _ _

theorem ofRequest_of_paginated (h : r.paginated = .error e) : OfRequest e := by
  rw [paginated] at h
  split at h
  · rcases hd : r.decoded Pagination.ofEnvelope? with e' | pagination <;> rw [hd] at h <;> cases h
    exact ofRequest_of_decoded hd
  · cases h

end Response

/-! ## Clients -/

namespace Client

variable (c : Client)

theorem failsOnly_countedTrip (r : Request) : FailsOnly OfRequest (c.countedTrip r) := by
  refine .bind (Session.failsOnly_roundTrip _ r) fun response => ?_
  split
  · exact .bind (.update _) fun _ => .pure _
  · exact .pure _

theorem failsOnly_judgedTrip (r : Request) : FailsOnly OfRequest (c.judgedTrip r) :=
  .bind (c.failsOnly_countedTrip r) fun _ => .bind .state fun _ =>
    .ofExcept fun _ => Response.ofRequest_of_verdict

theorem failsOnly_transcribeOutcome (outcome : Except Error Response) :
    FailsOnly OfRequest (transcribeOutcome outcome) := by
  cases outcome with
  | ok response => exact .update _
  | error e =>
    rw [transcribeOutcome]
    split
    · exact .update _
    · exact .pure _

theorem failsOnly_attempt (r : Request) : FailsOnly OfRequest (c.attempt r) := by
  rw [attempt]
  split
  · refine .bind (.update _) fun _ => (c.failsOnly_judgedTrip r).attempt_bind ?_ ?_
    · exact fun response => .bind (failsOnly_transcribeOutcome _) fun _ => .pure response
    · exact fun e he => .bind (failsOnly_transcribeOutcome _) fun _ => .fail he
  · exact c.failsOnly_judgedTrip r

theorem failsOnly_judge (e : Error) (attempt : Nat) : FailsOnly Q (c.judge e attempt) :=
  .bind (.update _) fun _ => .pure _

/-- **Sending a request fails only as requests do**, whatever the retry rule says. -/
theorem failsOnly_execute (r : Request) : FailsOnly OfRequest (c.execute r) :=
  .bind (.retryFrom c.failsOnly_judge (Session.failsOnly_pause r.lifetime c.retry.backoff)
    (c.failsOnly_attempt r) _ _) fun _ => .ofExcept fun _ => Response.ofRequest_of_paginated

theorem failsOnly_executeJson (read : Json.Tree → Option α) (r : Request) :
    FailsOnly OfRequest (c.executeJson read r) :=
  .bind (c.failsOnly_execute r) fun _ =>
    .bind (.ofExcept fun _ => Response.ofRequest_of_decoded) fun _ => .pure _

theorem ofRequest_of_request {l : Lifetime} {method path : String} {body : Option Bytes}
    {e : Error} (h : c.request l method path body = .error e) : OfRequest e := by
  rw [request] at h
  split at h <;> cases h
  exact .invalidUrl _

theorem ofRequest_of_actionsRequest {l : Lifetime} {f : ActionFilter} {e : Error}
    (h : c.actionsRequest l f = .error e) : OfRequest e := by
  rw [actionsRequest] at h
  rcases hr : c.request l "GET" actionsPath none with e' | r <;> rw [hr] at h <;> cases h
  exact c.ofRequest_of_request hr

/-- **Asking for actions fails only as requests do.** -/
theorem failsOnly_allActions (rounds : Nat) (l : Lifetime) (f : ActionFilter) :
    FailsOnly OfRequest (c.allActions rounds l f) := by
  refine .collectFrom (fun page => ?_) rounds 1
  refine .bind (.ofExcept fun _ => c.ofRequest_of_actionsRequest) fun r => ?_
  exact .bind (c.failsOnly_executeJson _ r) fun _ => .pure _

end Client

end CloudClient
