import CloudClient.Proofs.Retrying
import CloudClient.Proofs.RoundTrips

/-!
# What is sent again

A client with the usual rule sends a request again because of what the network has brought, and that
is decided in several places: the verdict on an answer looks at the status and for an envelope, the
rule looks at the error, and only the answer of the last attempt is read any further. This file says
what it comes to.

* `Retriable` — what a round trip brings when the request is sent again.
* `Session.Sends` — which requests have been sent between two states of a session.
* `Client.attempt_inv` — an attempt ends with the verdict on what its round trip brings, unless the
  lifetime ends it.
* `Client.retryFrom_sends`, by induction on the attempts left, and `Client.execute_sends` — so the
  request is sent up to the first time that it brings nothing of that kind.
-/

namespace CloudClient

/-! ## Envelopes -/

/-- The answer reports the error of this record: its body is not empty and is declared to be JSON,
and it holds the record in an envelope, with a code or a message. -/
structure Response.Reports (r : Response) (b : ErrorBody) : Prop where
  body_ne_nil : r.body ≠ []
  declared : ∃ text, r.header? "content-type" = some text ∧
    text.startsWith "application/json" = true
  decoded : r.decode? ErrorBody.ofEnvelope? = some b
  nonblank : b.code ≠ "" ∨ b.message ≠ ""

theorem Response.hasJsonBody_iff (r : Response) :
    r.hasJsonBody = true ↔ r.body ≠ [] ∧
      ∃ text, r.header? "content-type" = some text ∧ text.startsWith "application/json" = true := by
  rw [hasJsonBody, Bool.and_eq_true, Bool.not_eq_true', List.isEmpty_eq_false_iff]
  refine and_congr_right fun _ => ?_
  cases r.header? "content-type" with
  | none => simp
  | some text => simp

theorem ErrorBody.isBlank_eq_false_iff (b : ErrorBody) :
    b.isBlank = false ↔ b.code ≠ "" ∨ b.message ≠ "" := by
  rw [isBlank, Bool.and_eq_false_iff, String.isEmpty_eq_false_iff, String.isEmpty_eq_false_iff]

/-- The client finds the record that an answer reports, and no other. -/
theorem Response.errorBody?_eq_some_iff {r : Response} {b : ErrorBody} :
    r.errorBody? = some b ↔ r.Reports b := by
  rw [errorBody?]
  constructor
  · intro h
    by_cases hjson : r.hasJsonBody = true
    · rw [if_pos hjson, Option.filter_eq_some_iff, Bool.not_eq_true',
        ErrorBody.isBlank_eq_false_iff] at h
      obtain ⟨hbody, hdeclared⟩ := r.hasJsonBody_iff.1 hjson
      exact ⟨hbody, hdeclared, h.1, h.2⟩
    · rw [if_neg hjson] at h
      cases h
  · intro h
    rw [if_pos (r.hasJsonBody_iff.2 ⟨h.body_ne_nil, h.declared⟩), Option.filter_eq_some_iff,
      Bool.not_eq_true', ErrorBody.isBlank_eq_false_iff]
    exact ⟨h.decoded, h.nonblank⟩

/-- The codes of errors that may go away by themselves. -/
theorem ErrorCode.isTransient_ofText_iff (s : String) :
    (ofText s).isTransient = true ↔ s ∈ ["conflict", "rate_limit_exceeded", "timeout"] := by
  constructor
  · intro h
    rw [← text_ofText s]
    generalize ofText s = c at h ⊢
    cases c <;> simp [isTransient, text] at h ⊢
  · intro h
    simp only [List.mem_cons, List.not_mem_nil, or_false] at h
    obtain rfl | rfl | rfl := h <;> rfl

/-! ## What is worth another attempt -/

/-- What a round trip brings when the request is sent again. -/
inductive Retriable : Except NetworkError Response → Prop
  /-- a failure, because it took too long -/
  | late {error : NetworkError} (h : error.isTimeout = true) : Retriable (.error error)
  /-- the word of a gateway that got no answer, with nothing usable about an error -/
  | gateway {r : Response} (hstatus : r.status.code = 502 ∨ r.status.code = 504)
      (h : ∀ b, ¬ r.Reports b) : Retriable (.ok r)
  /-- the report of an error that may go away by itself -/
  | reported {r : Response} {b : ErrorBody} (hstatus : 400 ≤ r.status.code ∧ r.status.code ≤ 599)
      (h : r.Reports b) (hcode : b.code ∈ ["conflict", "rate_limit_exceeded", "timeout"]) :
      Retriable (.ok r)

/-- How an attempt ends whose round trip has brought this at this time of day. -/
def verdictAt (time : Nat) : Except NetworkError Response → Except Error Response
  | .error error => .error (.network error)
  | .ok r => (r.limited time).verdict

theorem Http.Status.isError_iff (s : Status) : s.isError = true ↔ 400 ≤ s.code ∧ s.code ≤ 599 := by
  rw [isError, Bool.and_eq_true, decide_eq_true_eq, decide_eq_true_eq]

theorem Http.Status.isGatewayFailure_iff (s : Status) :
    s.isGatewayFailure = true ↔ s.code = 502 ∨ s.code = 504 := by
  rw [isGatewayFailure, Bool.or_eq_true, beq_iff_eq, beq_iff_eq]

/-- The error of an answer may go away by itself if a code that it reports says so, or if a gateway
reports nothing. -/
theorem Response.isTransient_error_iff (r : Response) :
    r.error.isTransient = true ↔
      ((r.status.code = 502 ∨ r.status.code = 504) ∧ ∀ b, ¬ r.Reports b) ∨
        ∃ b, r.Reports b ∧ b.code ∈ ["conflict", "rate_limit_exceeded", "timeout"] := by
  rw [error]
  rcases hb : r.errorBody? with _ | b
  · have hnone : ∀ b, ¬ r.Reports b := by
      intro b h
      rw [errorBody?_eq_some_iff.2 h] at hb
      cases hb
    rw [Error.isTransient, Http.Status.isGatewayFailure_iff]
    constructor
    · exact fun h => .inl ⟨h, hnone⟩
    · rintro (⟨h, -⟩ | ⟨b, h, -⟩)
      · exact h
      · exact absurd h (hnone b)
  · have hsome : r.Reports b := errorBody?_eq_some_iff.1 hb
    change (ErrorCode.ofText b.code).isTransient = true ↔ _
    rw [ErrorCode.isTransient_ofText_iff]
    constructor
    · exact fun h => .inr ⟨b, hsome, h⟩
    · rintro (⟨-, h⟩ | ⟨b', h, hcode⟩)
      · exact absurd hsome (h b)
      · rw [errorBody?_eq_some_iff.2 h, Option.some.injEq] at hb
        rwa [← hb]

/-- **The verdict is an error that may go away by itself for these results, and for no others.** -/
theorem retriable_iff (time : Nat) (result : Except NetworkError Response) :
    Retriable result ↔ ∃ e, verdictAt time result = .error e ∧ e.isTransient = true := by
  rcases result with error | r
  · constructor
    · rintro ⟨h⟩
      exact ⟨_, rfl, h⟩
    · rintro ⟨_, he, h⟩
      cases he
      exact .late h
  · have hsame : ∀ b, (r.limited time).Reports b ↔ r.Reports b := fun b =>
      ⟨fun h => ⟨h.1, h.2, h.3, h.4⟩, fun h => ⟨h.1, h.2, h.3, h.4⟩⟩
    have htransient := (r.limited time).isTransient_error_iff
    simp only [hsame] at htransient
    rw [verdictAt, Response.verdict]
    constructor
    · intro h
      have herror : (r.limited time).status.isError = true := by
        rw [Http.Status.isError_iff]
        change 400 ≤ r.status.code ∧ r.status.code ≤ 599
        rcases h with _ | ⟨hstatus, -⟩ | ⟨hstatus, -, -⟩
        · omega
        · exact hstatus
      refine ⟨_, if_pos herror, htransient.2 ?_⟩
      rcases h with _ | ⟨hstatus, h⟩ | ⟨-, h, hcode⟩
      · exact .inl ⟨hstatus, h⟩
      · exact .inr ⟨_, h, hcode⟩
    · rintro ⟨e, he, h⟩
      split at he
      · rename_i herror
        cases he
        rcases htransient.1 h with ⟨hstatus, hnone⟩ | ⟨b, hb, hcode⟩
        · exact .gateway hstatus hnone
        · exact .reported ((Http.Status.isError_iff _).1 herror) hb hcode
      · cases he

/-! ## What is sent -/

namespace Session

/-- From one state to another the session has sent these requests in turn, and no others. -/
structure Sends (rs : List Request) (before after : Session) : Prop where
  surroundings_eq : after.surroundings = before.surroundings
  trips_eq : after.trips = before.trips + rs.length
  reads : Reads Event.request? rs before after

/-- What has been sent is what the log shows. -/
theorem Sends.sentBetween_eq {rs : List Request} {before after : Session}
    (h : Sends rs before after) : before.sentBetween after = rs :=
  h.reads.readBetween_eq

theorem Sends.trans {rs rs' : List Request} {s s' s'' : Session} (h : Sends rs s s')
    (h' : Sends rs' s' s'') : Sends (rs ++ rs') s s'' where
  surroundings_eq := h'.surroundings_eq.trans h.surroundings_eq
  trips_eq := by
    rw [h'.trips_eq, h.trips_eq, List.length_append, Nat.add_assoc]
  reads := h.reads.trans h'.reads

theorem Sends.trans_nothing {rs : List Request} {s s' s'' : Session} (h : Sends rs s s')
    (h' : Sends [] s' s'') : Sends rs s s'' := by
  have hwhole := h.trans h'
  rwa [List.append_nil] at hwhole

/-- What the round trip after so many others brings to a client that may have a timeout. -/
def brings (timeout : Option Nat) (r : Request) (s : Session) (others : Nat) :
    Except NetworkError Response :=
  if r.url.hostText?.isNone then .error .noHost
  else ((s.surroundings.network (s.trips + others) r).within timeout).reply.result

end Session

/-- What goes over the network when a request is sent so many times: without a host there is nowhere
to send it to. -/
def Request.sentTimes (r : Request) (n : Nat) : List Request :=
  if r.url.hostText?.isNone then [] else List.replicate n r

theorem Request.sentTimes_append (r : Request) (m n : Nat) :
    r.sentTimes m ++ r.sentTimes n = r.sentTimes (m + n) := by
  rw [sentTimes, sentTimes, sentTimes]
  split
  · rfl
  · exact List.replicate_append_replicate

namespace Session

/-- The requests of the round trips that were started are those that were sent. -/
theorem Makes.sends {trips : List Trip} {s s' : Session} (h : Makes trips s s') :
    Sends (trips.map (·.request)) s s' := by
  obtain ⟨hsurroundings, -, htrips, added, hlog, hadded⟩ := h
  refine ⟨hsurroundings, by rw [htrips, List.length_map], added, hlog, ?_⟩
  rw [← hadded, ← List.filterMap_reverse, requests_numbered]

/-- A request that can be sent is sent once, and brings what the round trip brings. -/
theorem CanSend.sentTimes_eq {r : Request} {s : Session} (h : s.CanSend r) :
    r.sentTimes 1 = [(s.trip r).request] := by
  rw [Request.sentTimes, if_neg (by simpa using h.1)]
  rfl

theorem CanSend.brings_eq {timeout : Option Nat} {r : Request} {s : Session} (h : s.CanSend r) :
    s.brings timeout r 0 = ((s.trip r).exchange s.surroundings.network timeout).reply.result := by
  rw [brings, if_neg (by simpa using h.1)]
  rfl

/-- After a request was sent, the next round trip is the next one. -/
theorem Sends.brings_eq {timeout : Option Nat} {r : Request} {s s' : Session}
    (h : Sends (r.sentTimes 1) s s') (others : Nat) :
    s'.brings timeout r others = s.brings timeout r (others + 1) := by
  rw [brings, brings]
  split
  · rfl
  · rename_i hhost
    have htrips := h.trips_eq
    rw [Request.sentTimes, if_neg hhost, List.length_replicate] at htrips
    rw [h.surroundings_eq, htrips, Nat.add_assoc, Nat.add_comm 1]

/-! ## One attempt -/

variable {α β : Type}

/-- The lifetime has ended what ends so. -/
def EndedBy (l : Lifetime) (ends : Outcome α × Session) : Prop :=
  ∃ e, ends.1 = .failed (.ended e) ∧ l.ending? ends.2.now = some e

/-- What the lifetime has ended is not gone on with. -/
theorem EndedBy.bind {l : Lifetime} {t : Task Session α} {s : Session} (h : EndedBy l (t s))
    (f : α → Task Session β) : EndedBy l ((t >>= f) s) := by
  obtain ⟨e, he, hending⟩ := h
  have ht : t s = (.failed (.ended e), (t s).2) := Prod.ext he rfl
  rw [Task.bind_failed ht]
  exact ⟨e, rfl, hending⟩

end Session

namespace Client

open Session (EndedBy Sends)

variable (c : Client) (r : Request) (s : Session)

/-- **Inversion for an attempt**: the lifetime ends it, or it ends with the verdict on what the
round trip brings, and the request was sent once. -/
theorem attempt_inv :
    EndedBy r.lifetime (c.attempt r s) ∨
      ∃ time s', c.attempt r s = Task.ofExcept (verdictAt time (s.brings c.timeout r 0)) s' ∧
        Sends (r.sentTimes 1) s s' := by
  have hattempt := c.attempt_sending r s
  generalize c.attempt r s = ends at hattempt ⊢
  cases hattempt with
  | unsent hsend herror hmakes =>
    cases herror with
    | network h =>
      obtain ⟨hhost, rfl⟩ := h
      rw [Session.brings, Request.sentTimes, hhost]
      exact .inr ⟨0, _, rfl, hmakes.sends⟩
    | ended h => exact .inl ⟨_, rfl, h⟩
  | lost hsend _ herror hmakes =>
    cases herror with
    | network h =>
      rw [hsend.brings_eq, h, hsend.sentTimes_eq]
      exact .inr ⟨0, _, rfl, hmakes.sends⟩
    | ended h => exact .inl ⟨_, rfl, h⟩
  | received hsend hreceived hmakes =>
    rw [hsend.brings_eq, Trip.result_of_received? hreceived, hsend.sentTimes_eq]
    exact .inr ⟨(s.trip r).timeOfEnd c.timeout s.surroundings, _, rfl, hmakes.sends⟩

/-! ## All attempts -/

variable {c r s} {o : Outcome Response} {s' : Session}

/-- **Inversion for an attempt and its judgement** with the usual rule: if what it brings is worth
another attempt, the next one goes on from there, and otherwise nothing more is sent. -/
theorem tryOnce_sends (hrule : c.retry.rule = .transient) (number : Nat)
    {next : Error → Task Session Response}
    (h : tryOnce c.judge c.attempt r number next s = (o, s'))
    (hlive : r.lifetime.ending? s'.now = none) :
    (Retriable (s.brings c.timeout r 0) ∧
        ∃ e s₁, next e s₁ = (o, s') ∧ Sends (r.sentTimes 1) s s₁) ∨
      (¬ Retriable (s.brings c.timeout r 0) ∧ Sends (r.sentTimes 1) s s') := by
  have hjudge : ∀ e s₁, c.judge e number s₁ =
      (.done e.isTransient, s₁.noted (.judged e number)) := by
    intro e s₁
    rw [judge, hrule]
    rfl
  rcases c.attempt_inv r s with ⟨e, he, hending⟩ | ⟨time, s₁, htrip, hsent⟩
  · -- the end of a lifetime is not worth another attempt, so it would show now
    have hattempt : c.attempt r s = (.failed (.ended e), (c.attempt r s).2) := Prod.ext he rfl
    rw [tryOnce_failed hattempt (hjudge _ _), Prod.mk.injEq] at h
    obtain ⟨-, rfl⟩ := h
    have hnone : r.lifetime.ending? (c.attempt r s).2.now = none := hlive
    rw [hending] at hnone
    cases hnone
  · rw [retriable_iff time]
    rcases hv : verdictAt time (s.brings c.timeout r 0) with e | response <;> rw [hv] at htrip
    · have hnoted : Sends (r.sentTimes 1) s (s₁.noted (.judged e number)) :=
        hsent.trans_nothing (Session.Makes.noted (by rfl) s₁).sends
      rw [tryOnce_failed htrip (hjudge _ _)] at h
      by_cases htransient : e.isTransient = true
      · rw [if_pos htransient] at h
        exact .inl ⟨⟨e, rfl, htransient⟩, e, _, h, hnoted⟩
      · rw [if_neg htransient, Prod.mk.injEq] at h
        obtain ⟨-, rfl⟩ := h
        refine .inr ⟨?_, hnoted⟩
        rintro ⟨e', he', htransient'⟩
        cases he'
        exact htransient htransient'
    · rw [tryOnce_done htrip, Prod.mk.injEq] at h
      obtain ⟨-, rfl⟩ := h
      exact .inr ⟨nofun, hsent⟩

/-- **A request is sent until it brings nothing of that kind**, or no attempt is left. -/
theorem retryFrom_sends (hrule : c.retry.rule = .transient) {left number : Nat}
    (h : retryFrom c.judge (Session.pause r.lifetime c.retry.backoff) c.attempt r left number s =
      (o, s'))
    (hlive : r.lifetime.ending? s'.now = none) :
    ∃ n ≤ left, (∀ i < n, Retriable (s.brings c.timeout r i)) ∧
      (n = left ∨ ¬ Retriable (s.brings c.timeout r n)) ∧
      Sends (r.sentTimes (n + 1)) s s' := by
  induction left generalizing number s with
  | zero =>
    rcases tryOnce_sends hrule number h hlive with ⟨-, e, s₁, hnext, hsent⟩ | ⟨hnot, hsent⟩
    · rw [Task.fail_apply, Prod.mk.injEq] at hnext
      obtain ⟨-, rfl⟩ := hnext
      exact ⟨0, Nat.le_refl 0, nofun, .inl rfl, hsent⟩
    · exact ⟨0, Nat.le_refl 0, nofun, .inl rfl, hsent⟩
  | succ left ih =>
    rcases tryOnce_sends hrule number h hlive with ⟨hworth, e, s₁, hnext, hsent⟩ | ⟨hnot, hsent⟩
    · rcases Session.pause_inv r.lifetime c.retry.backoff number s₁ with
        hpause | ⟨e', s₂, hpause, hending⟩
      · rw [Task.bind_done hpause] at hnext
        obtain ⟨n, hle, hbefore, hlast, hmore⟩ := ih hnext
        have hpaused : Sends (r.sentTimes 1) s (s₁.paused c.retry.backoff number) :=
          hsent.trans_nothing (Session.Makes.elapsed _ s₁).sends
        simp only [hpaused.brings_eq] at hbefore hlast
        refine ⟨n + 1, Nat.succ_le_succ hle, ?_, hlast.imp (congrArg (· + 1)) id, ?_⟩
        · intro i hi
          rcases i with _ | i
          · exact hworth
          · exact hbefore i (Nat.lt_of_succ_lt_succ hi)
        · have hwhole := hpaused.trans hmore
          rwa [Request.sentTimes_append, Nat.add_comm 1] at hwhole
      · -- the lifetime has ended the pause
        rw [Task.bind_failed hpause, Prod.mk.injEq] at hnext
        obtain ⟨-, rfl⟩ := hnext
        rw [hending] at hlive
        cases hlive
    · exact ⟨0, Nat.zero_le _, nofun, .inr hnot, hsent⟩

/-- What becomes of the answer of the last attempt makes no difference to the session. -/
theorem execute_snd (c : Client) (r : Request) (s : Session) :
    (c.execute r s).2 = (c.attempts r s).2 := by
  rw [execute, Task.bind_apply]
  rcases c.attempts r s with ⟨response | e | _, s'⟩
  · dsimp only
    cases response.paginated <;> rfl
  · rfl
  · rfl

/-- Neither does the value that was asked for. -/
theorem executeJson_snd {α : Type} (c : Client) (read : Json.Tree → Option α) (r : Request)
    (s : Session) : (c.executeJson read r s).2 = (c.execute r s).2 := by
  rw [executeJson, Task.bind_apply]
  rcases c.execute r s with ⟨response | e | _, s'⟩
  · dsimp only
    rw [Task.bind_apply]
    cases response.decoded read <;> rfl
  · rfl
  · rfl

variable (c r s) in
/-- **What a client sends again.** With the usual rule and a lifetime that goes on, a request is
sent up to the first time that it brings nothing of the kind that is sent again, or until there is
no attempt left; and what the answer is read as makes no difference. -/
theorem execute_sends (hrule : c.retry.rule = RetryPolicy.default.rule)
    (hlive : r.lifetime.ending? (c.execute r s).2.now = none) :
    ∃ n, IsLeast {i | i = c.retry.limit ∨ ¬ Retriable (s.brings c.timeout r i)} n ∧
      s.sentBetween (c.execute r s).2 = r.sentTimes (n + 1) ∧
      ∀ {α : Type} (read : Json.Tree → Option α),
        s.sentBetween (c.executeJson read r s).2 = r.sentTimes (n + 1) := by
  rcases hrun : c.attempts r s with ⟨o, s'⟩
  have hstate : (c.execute r s).2 = s' := by rw [execute_snd, hrun]
  rw [hstate] at hlive
  obtain ⟨n, hle, hbefore, hlast, hsent⟩ := retryFrom_sends hrule hrun hlive
  refine ⟨n, ⟨hlast, ?_⟩, ?_, fun read => ?_⟩
  · rintro i (rfl | hi)
    · exact hle
    · by_contra hlt
      exact hi (hbefore i (Nat.lt_of_not_le hlt))
  · rw [hstate, hsent.sentBetween_eq]
  · rw [executeJson_snd, hstate, hsent.sentBetween_eq]

end Client

namespace Loopback

/-- The front page is asked for twice: the second answer is no error. -/
theorem execute_sends_patient :
    slowSession.sentBetween (patient.execute frontPage slowSession).2 = [frontPage, frontPage] := by
  obtain ⟨n, ⟨hn, hleast⟩, hsent, -⟩ := Client.execute_sends patient frontPage slowSession rfl
    (Lifetime.ending?_unbounded _)
  have hlate : Retriable (slowSession.brings patient.timeout frontPage 0) := by
    have hbrings : slowSession.brings patient.timeout frontPage 0 = .error .timedOut := rfl
    rw [hbrings]
    exact .late rfl
  have hwelcome : ¬ Retriable (slowSession.brings patient.timeout frontPage 1) := by
    have hbrings : slowSession.brings patient.timeout frontPage 1 =
        .ok (.received ⟨200⟩ (.ofList [("content-type", Client.jsonType)])
          (Json.Value.string "welcome").bytes) := rfl
    rw [hbrings]
    rintro (_ | ⟨hstatus, -⟩ | ⟨hstatus, -, -⟩)
    · exact absurd hstatus (by decide)
    · exact absurd hstatus (by decide)
  obtain rfl : n = 1 := by
    refine Nat.le_antisymm (hleast (.inr hwelcome)) (Nat.pos_of_ne_zero ?_)
    rintro rfl
    rcases hn with hlimit | hnot
    · exact absurd hlimit (by decide)
    · exact hnot hlate
  exact hsent

end Loopback

end CloudClient
