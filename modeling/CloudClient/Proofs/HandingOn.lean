import CloudClient.Proofs.Resending

/-!
# What is handed on

Several layers take an answer from one to the next, and another attempt may follow it. This file
says what the caller gets in the end: the last answer that has come, with its status, its header
fields and its body as they were, or an error that it has caused.

* `Response.Carries` — an answer as it has come, with the request window that its fields report.
* `Session.Underway` — the invariant between attempts: what was sent can be sent again.
* `Client.attempt_cases` — an attempt brings an answer without an error, or it has `Failed`, because
  of its answer or without one.
* `Client.Concluded` — how all attempts end (`Client.retryFrom_concluded`, by induction on the
  attempts left).
* `Client.execute_handsOn` — so the last answer is handed on, and no other one.
-/

namespace CloudClient

/-! ## Answers and what carries them -/

/-- The response is this answer as it has come, with the request window that its header fields
report at this time of day. -/
structure Response.Carries (r : Response) (time : Nat) (raw : Response) : Prop where
  status_eq : r.status = raw.status
  headers_eq : r.headers = raw.headers
  body_eq : r.body = raw.body
  rateLimit_eq : r.metadata.rateLimit = .ofHeaders time raw.headers

namespace Response

/-- The error of an answer with an error status has it attached. -/
theorem error_inv (r : Response) :
    r.error.response? = some r ∧
      ((∃ response, r.error = .status response) ∨ ∃ cause, r.error = .api cause) := by
  rw [error]
  split
  · exact ⟨rfl, .inr ⟨_, rfl⟩⟩
  · exact ⟨rfl, .inl ⟨_, rfl⟩⟩

/-- An answer whose place in a list is read is the same answer, unless its body says that it is JSON
and is not. -/
theorem paginated_inv (r : Response) :
    (∃ pagination, r.paginated = .ok { r with metadata := { r.metadata with pagination } }) ∨
      (r.hasJsonBody = true ∧ r.decode? Pagination.ofEnvelope? = none ∧
        r.paginated = .error r.undecodable) := by
  rw [paginated]
  split
  · rename_i hjson
    rw [decoded]
    split
    · exact .inl ⟨_, rfl⟩
    · rename_i hnone
      exact .inr ⟨hjson, hnone, rfl⟩
  · exact .inl ⟨r.metadata.pagination, rfl⟩

theorem carries_limited (raw : Response) (time : Nat) : (raw.limited time).Carries time raw :=
  ⟨rfl, rfl, rfl, rfl⟩

end Response

/-- The verdict on an answer, by its status. -/
theorem Trip.verdict_inv (timeout : Option Nat) (t : Trip) (surroundings : Surroundings)
    (raw : Response) :
    (raw.status.isError = false ∧ t.verdict timeout surroundings raw =
        .ok (raw.limited (t.timeOfEnd timeout surroundings))) ∨
      (raw.status.isError = true ∧ t.verdict timeout surroundings raw =
        .error (raw.limited (t.timeOfEnd timeout surroundings)).error) := by
  cases h : raw.status.isError with
  | false => exact .inl ⟨rfl, if_neg (by simpa [Response.limited] using h)⟩
  | true => exact .inr ⟨rfl, if_pos h⟩

/-- The error says that something broke off, and not what an answer was like. -/
inductive Error.IsBreak : Error → Prop
  | network (cause : NetworkError) : IsBreak (.network cause)
  | ended (e : Ending) : IsBreak (.ended e)

theorem Session.BreaksOff.isBreak {l : Lifetime} {fails : NetworkError → Prop} {e : Error}
    {s : Session} (h : BreaksOff l fails e s) : e.IsBreak := by
  cases h with
  | network => exact .network _
  | ended => exact .ended _

/-- The round trips of a client between two states that have brought a whole answer, each with the
answer. -/
def Client.answersBetween (c : Client) (before after : Session) : List (Trip × Response) :=
  (before.startedBetween after).filterMap fun t =>
    (t.received? before.surroundings.network c.timeout).map (t, ·)

/-- Since `s₀` nothing was sent, or the request can be sent again. -/
def Session.Underway (s₀ : Session) (r : Request) (s : Session) : Prop :=
  ∃ trips, s₀.Makes trips s ∧ (trips = [] ∨ s.CanSend r)

namespace Client

open Session (Makes)

variable (c : Client) (r : Request) (s₀ : Session)

/-! ## Attempts -/

/-- Since `s₀` this was the last round trip, and it has brought this answer. -/
structure Answered (t : Trip) (raw : Response) (s : Session) : Prop where
  makes : ∃ earlier, s₀.Makes (earlier ++ [t]) s
  received : t.received? s₀.surroundings.network c.timeout = some raw
  hasHost : r.url.hostText? ≠ none

/-- Since `s₀` the last round trip has brought no answer, if there was any. -/
def Unanswered (s : Session) : Prop :=
  ∃ trips, s₀.Makes trips s ∧
    (∀ t ∈ trips.getLast?, t.received? s₀.surroundings.network c.timeout = none) ∧
    (trips = [] ∨ r.url.hostText? ≠ none)

/-- The error of an attempt, and the state that it has left. -/
inductive Failed : Error → Session → Prop
  /-- the answer has this error -/
  | answered {t : Trip} {raw : Response} {e : Error} {s : Session} (h : c.Answered r s₀ t raw s)
      (hverdict : t.verdict c.timeout s₀.surroundings raw = .error e)
      (hnow : s.now = t.endsAt s₀.surroundings.network c.timeout) : Failed e s
  /-- there is no answer -/
  | unanswered {e : Error} {s : Session} (h : c.Unanswered r s₀ s) (hbreak : e.IsBreak) :
      Failed e s

/-- How all attempts end. -/
inductive Concluded : Outcome Response × Session → Prop
  /-- with the last answer, which has no error -/
  | done {t : Trip} {raw response : Response} {s : Session} (h : c.Answered r s₀ t raw s)
      (hverdict : t.verdict c.timeout s₀.surroundings raw = .ok response) :
      Concluded (.done response, s)
  /-- with the error of the last attempt -/
  | failed {e : Error} {s : Session} (h : c.Failed r s₀ e s) : Concluded (.failed e, s)
  /-- with the end of the lifetime in the pause after an answer that has an error -/
  | interrupted {t : Trip} {raw : Response} {e : Error} {number : Nat} {before s : Session}
      {ending : Ending} (h : c.Answered r s₀ t raw s)
      (hverdict : t.verdict c.timeout s₀.surroundings raw = .error e)
      (hrule : c.retry.rule e number = true) (hnumber : number < c.retry.limit)
      (hbefore : before.now = t.endsAt s₀.surroundings.network c.timeout)
      (hpause : Session.pause r.lifetime c.retry.backoff number before =
        (.failed (.ended ending), s)) :
      Concluded (.failed (.ended ending), s)

variable {c r s₀} {e : Error} {s s' : Session} {t : Trip} {raw : Response}

theorem Answered.trans_nothing (h : c.Answered r s₀ t raw s) (hafter : Makes [] s s') :
    c.Answered r s₀ t raw s' := by
  obtain ⟨earlier, hmakes⟩ := h.makes
  exact ⟨⟨earlier, hmakes.trans_nothing hafter⟩, h.received, h.hasHost⟩

theorem Unanswered.trans_nothing (h : c.Unanswered r s₀ s) (hafter : Makes [] s s') :
    c.Unanswered r s₀ s' := by
  obtain ⟨trips, hmakes, hrest⟩ := h
  exact ⟨trips, hmakes.trans_nothing hafter, hrest⟩

/-- A judgement changes nothing. -/
theorem Failed.judged (h : c.Failed r s₀ e s) (number : Nat) :
    c.Failed r s₀ e (s.noted (.judged e number)) := by
  have hafter : Makes [] s (s.noted (.judged e number)) := .noted (by rfl) s
  cases h with
  | answered h hverdict hnow => exact .answered (h.trans_nothing hafter) hverdict hnow
  | unanswered h herror => exact .unanswered (h.trans_nothing hafter) herror

/-- After a whole pause the request can be sent again, if it was sent. -/
theorem Failed.underway (h : c.Failed r s₀ e s) (hafter : Makes [] s s')
    (hlive : r.lifetime.ending? s'.now = none) : s₀.Underway r s' := by
  cases h with
  | answered h =>
    obtain ⟨earlier, hmakes⟩ := h.makes
    exact ⟨_, hmakes.trans_nothing hafter, .inr ⟨h.hasHost, hlive⟩⟩
  | unanswered h =>
    obtain ⟨trips, hmakes, -, hhost⟩ := h
    exact ⟨trips, hmakes.trans_nothing hafter, hhost.imp_right fun hhost => ⟨hhost, hlive⟩⟩

/-- **An attempt** brings an answer without an error, or fails. -/
theorem attempt_cases (c : Client) (h : s₀.Underway r s) :
    (∃ t raw response s', c.attempt r s = (.done response, s') ∧ c.Answered r s₀ t raw s' ∧
        t.verdict c.timeout s₀.surroundings raw = .ok response) ∨
      ∃ e s', c.attempt r s = (.failed e, s') ∧ c.Failed r s₀ e s' := by
  obtain ⟨trips, hbefore, hcan⟩ := h
  have hattempt := c.attempt_sending r s
  generalize c.attempt r s = ends at hattempt ⊢
  rw [hbefore.surroundings_eq] at hattempt
  rcases hattempt with ⟨hsend, herror, hmakes, -⟩ | ⟨hsend, hlost, herror, hmakes, -⟩ |
    ⟨hsend, hreceived, hmakes, hnow, -⟩
  · -- nothing was sent before either
    obtain rfl : trips = [] := hcan.resolve_right hsend
    have hnone : ∀ t ∈ ([] : List Trip).getLast?,
        t.received? s₀.surroundings.network c.timeout = none := by
      intro t ht
      cases ht
    exact .inr ⟨_, _, rfl, .unanswered ⟨[], hbefore.trans hmakes, hnone, .inl rfl⟩ herror.isBreak⟩
  · rw [hbefore.surroundings_eq] at hlost
    refine .inr ⟨_, _, rfl, .unanswered ⟨_, hbefore.trans hmakes, ?_, .inr hsend.1⟩ herror.isBreak⟩
    rw [List.getLast?_concat]
    rintro t ⟨⟩
    exact hlost
  · rename_i raw s'
    rw [hbefore.surroundings_eq] at hreceived hnow
    have hanswered : c.Answered r s₀ (s.trip r) raw s' :=
      ⟨⟨trips, hbefore.trans hmakes⟩, hreceived, hsend.1⟩
    rcases hverdict : (s.trip r).verdict c.timeout s₀.surroundings raw with e | response
    · exact .inr ⟨e, s', rfl, .answered hanswered hverdict hnow⟩
    · exact .inl ⟨s.trip r, raw, response, s', rfl, hanswered, hverdict⟩

/-- **An attempt and its judgement**: what comes next goes on from a failure, if there is a next. -/
theorem tryOnce_concluded (h : s₀.Underway r s) {number : Nat}
    {next : Error → Task Session Response}
    (hnext : ∀ e s', c.Failed r s₀ e s' → c.retry.rule e number = true →
      c.Concluded r s₀ (next e s')) :
    c.Concluded r s₀ (tryOnce c.judge c.attempt r number next s) := by
  rcases c.attempt_cases h with ⟨t, raw, response, s', hattempt, hanswered, hverdict⟩ |
    ⟨e, s', hattempt, hfailed⟩
  · rw [tryOnce_done hattempt]
    exact .done hanswered hverdict
  · have hjudge : c.judge e number s' =
        (.done (c.retry.rule e number), s'.noted (.judged e number)) := rfl
    rw [tryOnce_failed hattempt hjudge]
    split
    · rename_i hrule
      exact hnext e _ (hfailed.judged number) hrule
    · exact .failed (hfailed.judged number)

/-- **All attempts.** -/
theorem retryFrom_concluded {left number : Nat} (hlimit : number + left = c.retry.limit)
    (h : s₀.Underway r s) :
    c.Concluded r s₀
      (retryFrom c.judge (Session.pause r.lifetime c.retry.backoff) c.attempt r left number s) := by
  -- by the attempts left; after each failure a whole pause leads to the next attempt
  induction left generalizing number s with
  | zero => exact tryOnce_concluded h fun e s' hfailed _ => .failed hfailed
  | succ left ih =>
    refine tryOnce_concluded h fun e s' hfailed hrule => ?_
    obtain ⟨millis, hpause⟩ := Session.exists_wait_eq_pause r.lifetime c.retry.backoff number s'
    rcases Session.wait_cases r.lifetime millis s' with
      ⟨hlive, hwait⟩ | ⟨-, moment, ending, hmoment, -, hwait⟩
    · rw [Task.bind_done (hpause.trans hwait)]
      exact ih (by omega) (hfailed.underway (.elapsed millis s') hlive)
    · rw [Task.bind_failed (hpause.trans hwait)]
      have hafter : Makes [] s' { s' with now := moment } := .moved hmoment
      cases hfailed with
      | answered h hverdict hnow =>
        exact .interrupted (h.trans_nothing hafter) hverdict hrule (by omega) hnow
          (hpause.trans hwait)
      | unanswered h => exact .failed (.unanswered (h.trans_nothing hafter) (.ended ending))

theorem attempts_concluded (c : Client) (r : Request) (s : Session) :
    c.Concluded r s (c.attempts r s) :=
  retryFrom_concluded (Nat.zero_add _) ⟨[], .nothing rfl rfl rfl rfl, .inl rfl⟩

/-! ## What the caller gets -/

theorem Answered.startedBetween_getLast? (h : c.Answered r s₀ t raw s) :
    (s₀.startedBetween s).getLast? = some t := by
  obtain ⟨earlier, hmakes⟩ := h.makes
  rw [hmakes.startedBetween_eq, List.getLast?_concat]

/-- The last round trip is known, and so is its answer. -/
theorem Answered.eq_of_getLast? {t' : Trip} {raw' : Response} (h : c.Answered r s₀ t raw s)
    (ht : (s₀.startedBetween s).getLast? = some t')
    (hreceived : t'.received? s₀.surroundings.network c.timeout = some raw') :
    t = t' ∧ raw = raw' := by
  obtain rfl := Option.some.inj (h.startedBetween_getLast?.symm.trans ht)
  exact ⟨rfl, Option.some.inj (h.received.symm.trans hreceived)⟩

theorem Answered.answersBetween_getLast? (h : c.Answered r s₀ t raw s) :
    (c.answersBetween s₀ s).getLast? = some (t, raw) := by
  obtain ⟨earlier, hmakes⟩ := h.makes
  rw [answersBetween, hmakes.startedBetween_eq, List.filterMap_append, List.filterMap_cons,
    h.received]
  exact List.getLast?_concat

theorem Unanswered.not_received (h : c.Unanswered r s₀ s)
    (ht : (s₀.startedBetween s).getLast? = some t) :
    t.received? s₀.surroundings.network c.timeout = none := by
  obtain ⟨trips, hmakes, hlost, -⟩ := h
  rw [hmakes.startedBetween_eq] at ht
  exact hlost t ht

variable (c r s₀) in
/-- How a request ends for the caller. -/
inductive HandsOn : Outcome Response × Session → Prop
  /-- with the last answer -/
  | done {t : Trip} {raw response : Response} {s : Session} (h : c.Answered r s₀ t raw s)
      (hstatus : raw.status.isError = false)
      (hcarries : response.Carries (t.timeOfEnd c.timeout s₀.surroundings) raw) :
      HandsOn (.done response, s)
  /-- with the error that the last answer reports -/
  | refused {t : Trip} {raw response : Response} {e : Error} {s : Session}
      (h : c.Answered r s₀ t raw s) (hstatus : raw.status.isError = true)
      (hkind : (∃ response, e = .status response) ∨ ∃ cause, e = .api cause)
      (hresponse : e.response? = some response)
      (hcarries : response.Carries (t.timeOfEnd c.timeout s₀.surroundings) raw) :
      HandsOn (.failed e, s)
  /-- with an error, as the last answer says that it is JSON and is not -/
  | undecodable {t : Trip} {raw : Response} {fault : Option Json.Fault} {s : Session}
      (h : c.Answered r s₀ t raw s) (hstatus : raw.status.isError = false)
      (hjson : raw.hasJsonBody = true) (hdecode : raw.decode? Pagination.ofEnvelope? = none) :
      HandsOn (.failed (.undecodable raw.status raw.text fault), s)
  /-- with the end of the lifetime in the pause after the last answer -/
  | interrupted {t : Trip} {raw : Response} {e : Error} {number : Nat} {before s : Session}
      {ending : Ending} (h : c.Answered r s₀ t raw s)
      (hverdict : t.verdict c.timeout s₀.surroundings raw = .error e)
      (hrule : c.retry.rule e number = true) (hnumber : number < c.retry.limit)
      (hbefore : before.now = t.endsAt s₀.surroundings.network c.timeout)
      (hpause : Session.pause r.lifetime c.retry.backoff number before =
        (.failed (.ended ending), s)) :
      HandsOn (.failed (.ended ending), s)
  /-- with an error, as the last attempt has brought no answer -/
  | unanswered {e : Error} {s : Session} (h : c.Unanswered r s₀ s) (hbreak : e.IsBreak) :
      HandsOn (.failed e, s)

variable (c r s₀) in
/-- The last answer is read for its place in a list, and nothing else is done to it. -/
theorem execute_ends : c.HandsOn r s₀ (c.execute r s₀) := by
  have hattempts := c.attempts_concluded r s₀
  generalize hends : c.attempts r s₀ = ends at hattempts
  rw [execute]
  cases hattempts with
  | done h hverdict =>
    rename_i t raw response s
    rw [Task.bind_done hends]
    rcases t.verdict_inv c.timeout s₀.surroundings raw with ⟨hstatus, hok⟩ | ⟨-, herror⟩
    · obtain rfl := Except.ok.inj (hok.symm.trans hverdict)
      rcases (raw.limited (t.timeOfEnd c.timeout s₀.surroundings)).paginated_inv with
        ⟨pagination, hpaginated⟩ | ⟨hjson, hdecode, hpaginated⟩
      · rw [hpaginated]
        exact .done h hstatus ⟨rfl, rfl, rfl, rfl⟩
      · have hend : c.HandsOn r s₀
            (.failed (.undecodable raw.status raw.text (Json.Fault.find? raw.body)), s) :=
          .undecodable h hstatus hjson hdecode
        rw [hpaginated]
        exact hend
    · cases herror.symm.trans hverdict
  | failed h =>
    rename_i e s
    rw [Task.bind_failed hends]
    cases h with
    | answered h hverdict hnow =>
      rename_i t raw
      rcases t.verdict_inv c.timeout s₀.surroundings raw with ⟨-, hok⟩ | ⟨hstatus, herror⟩
      · cases hok.symm.trans hverdict
      · obtain rfl := Except.error.inj (herror.symm.trans hverdict)
        obtain ⟨hresponse, hkind⟩ :=
          (raw.limited (t.timeOfEnd c.timeout s₀.surroundings)).error_inv
        exact .refused h hstatus hkind hresponse (raw.carries_limited _)
    | unanswered h hbreak => exact .unanswered h hbreak
  | interrupted h hverdict hrule hnumber hbefore hpause =>
    rw [Task.bind_failed hends]
    exact .interrupted h hverdict hrule hnumber hbefore hpause

/-- **The answer is handed on as it has come.** With a whole answer that is the last one, the status
is no error status, and the response is that answer with its status, header fields and body, and
with the request window that its fields report. With an error that the status or the API reports,
the last whole answer has an error status, and it is attached to the error in the same way. With an
error about a body, the last whole answer has no error status, its body is declared to be JSON but
does not hold what can stand around a list, and the error has its status and the text of its body.
If the last round trip that was started has brought a whole answer, then a request ends in one of
these ways, or the lifetime has ended the pause that was to follow the answer. -/
theorem execute_handsOn {o : Outcome Response} (h : c.execute r s = (o, s')) :
    (∀ response, o = .done response →
      ∃ t raw, (c.answersBetween s s').getLast? = some (t, raw) ∧
        ¬ (400 ≤ raw.status.code ∧ raw.status.code ≤ 599) ∧
        response.Carries (t.timeOfEnd c.timeout s.surroundings) raw) ∧
    (∀ e, o = .failed e → ((∃ response, e = .status response) ∨ ∃ cause, e = .api cause) →
      ∃ t raw response, (c.answersBetween s s').getLast? = some (t, raw) ∧
        (400 ≤ raw.status.code ∧ raw.status.code ≤ 599) ∧ e.response? = some response ∧
        response.Carries (t.timeOfEnd c.timeout s.surroundings) raw) ∧
    (∀ status text fault, o = .failed (.undecodable status text fault) →
      ∃ t raw, (c.answersBetween s s').getLast? = some (t, raw) ∧
        ¬ (400 ≤ raw.status.code ∧ raw.status.code ≤ 599) ∧ raw.hasJsonBody = true ∧
        raw.decode? Pagination.ofEnvelope? = none ∧ text = raw.text ∧ status = raw.status) ∧
    ∀ t raw, (s.startedBetween s').getLast? = some t →
      t.received? s.surroundings.network c.timeout = some raw →
      (∃ response, o = .done response) ∨
      (∃ e, o = .failed e ∧ ((∃ response, e = .status response) ∨ (∃ cause, e = .api cause) ∨
        ∃ status text fault, e = .undecodable status text fault)) ∨
      ∃ ending e number before, o = .failed (.ended ending) ∧
        t.verdict c.timeout s.surroundings raw = .error e ∧ c.retry.rule e number = true ∧
        number < c.retry.limit ∧ before.now = t.endsAt s.surroundings.network c.timeout ∧
        Session.pause r.lifetime c.retry.backoff number before =
          (.failed (.ended ending), s') := by
  have hends := c.execute_ends r s
  rw [h] at hends
  simp only [← Http.Status.isError_iff, Bool.not_eq_true]
  refine ⟨?_, ?_, ?_, ?_⟩
  · rintro response rfl
    cases hends with
    | done h hstatus hcarries => exact ⟨_, _, h.answersBetween_getLast?, hstatus, hcarries⟩
  · rintro e rfl hkind
    cases hends with
    | refused h hstatus _ hresponse hcarries =>
      exact ⟨_, _, _, h.answersBetween_getLast?, hstatus, hresponse, hcarries⟩
    | undecodable => obtain ⟨_, h⟩ | ⟨_, h⟩ := hkind <;> cases h
    | interrupted => obtain ⟨_, h⟩ | ⟨_, h⟩ := hkind <;> cases h
    | unanswered _ hbreak => obtain ⟨_, rfl⟩ | ⟨_, rfl⟩ := hkind <;> cases hbreak
  · rintro status text fault rfl
    cases hends with
    | refused _ _ hkind => obtain ⟨_, h⟩ | ⟨_, h⟩ := hkind <;> cases h
    | undecodable h hstatus hjson hdecode =>
      exact ⟨_, _, h.answersBetween_getLast?, hstatus, hjson, hdecode, rfl, rfl⟩
    | unanswered _ hbreak => cases hbreak
  · intro t raw ht hreceived
    cases hends with
    | done => exact .inl ⟨_, rfl⟩
    | refused _ _ hkind => exact .inr (.inl ⟨_, rfl, hkind.imp_right .inl⟩)
    | undecodable => exact .inr (.inl ⟨_, rfl, .inr (.inr ⟨_, _, _, rfl⟩)⟩)
    | interrupted h hverdict hrule hnumber hbefore hpause =>
      obtain rfl := Option.some.inj (h.startedBetween_getLast?.symm.trans ht)
      obtain rfl := Option.some.inj (h.received.symm.trans hreceived)
      exact .inr (.inr ⟨_, _, _, _, rfl, hverdict, hrule, hnumber, hbefore, hpause⟩)
    | unanswered h =>
      rw [h.not_received ht] at hreceived
      cases hreceived

end Client

namespace Loopback

/-- The header fields of a greeting: one of them is there twice. -/
def greetingFields : Http.Headers :=
  .ofList [("via", textBytes "a"), ("ratelimit-limit", textBytes "3600"), ("via", textBytes "b")]

/-- The answer of a server that is busy. -/
def busyAnswer : Exchange :=
  ⟨0, .head ⟨409⟩ (.ofList [("content-type", Client.jsonType)]) 0
    (.ok (Json.Value.object [("error", .object [("code", .string "conflict")])]).bytes)⟩

/-- A session in which the server is busy at first, and then greets. -/
def busySession : Session :=
  session [busyAnswer, ⟨0, .head ⟨200⟩ greetingFields 0 (.ok (textBytes "hello"))⟩]

/-- The second answer is handed on, with both fields, and not the first one. -/
theorem execute_handsOn_patient :
    (patient.answersBetween busySession (patient.execute frontPage busySession).2).length = 2 ∧
      ∃ response, (patient.execute frontPage busySession).1 = .done response ∧
        response.headers = greetingFields ∧ response.body = textBytes "hello" ∧
        response.metadata.rateLimit.limit = 3600 := by
  have hlast : (patient.answersBetween busySession
      (patient.execute frontPage busySession).2).getLast?.map (·.2) =
        some (.received ⟨200⟩ greetingFields (textBytes "hello")) := by
    decide +kernel
  have hsome : (patient.execute frontPage busySession).1.value?.isSome = true := by decide +kernel
  obtain ⟨response, hvalue⟩ := Option.isSome_iff_exists.1 hsome
  have hdone := Outcome.value?_eq_some.1 hvalue
  obtain ⟨hresponse, -⟩ := Client.execute_handsOn (c := patient) (r := frontPage)
    (s := busySession) (Prod.ext hdone rfl)
  obtain ⟨t, raw, hanswer, -, hcarries⟩ := hresponse response rfl
  rw [hanswer] at hlast
  obtain rfl : raw = .received ⟨200⟩ greetingFields (textBytes "hello") := Option.some.inj hlast
  refine ⟨by decide +kernel, response, hdone, hcarries.headers_eq, hcarries.body_eq, ?_⟩
  rw [hcarries.rateLimit_eq]
  rfl

end Loopback

end CloudClient
