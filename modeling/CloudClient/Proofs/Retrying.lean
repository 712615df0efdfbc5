import CloudClient.Proofs.Ledger
import CloudClient.Proofs.Loopback
import CloudClient.Proofs.Pauses
import Mathlib.Data.List.Induction
import Mathlib.Order.Bounds.Basic

/-!
# Retries

Which attempts does a client make, and when? `Client.attemptLedger` has the attempts and the pauses
of `Client.attemptsBy`, for any way of making one attempt. The judgements are left out: they take no
time, and only decide what comes next.

* `RetryPolicy.Settles` — what makes an attempt the last one.
* `Client.Failing` — the invariant: all attempts so far have failed, none of them has settled the
  matter, and each has a pause after it. It is kept by a failed attempt with its pause
  (`Client.Failing.paused`).
* `Client.enteredFrom_calls` — hence the last attempt is the first one that settles the matter.
* `Client.attemptsBy_calls` — so all that a client calls can be written down from the outcomes of
  its attempts.
-/

namespace CloudClient

/-! ## One attempt -/

section Attempt

variable {σ ρ α : Type} {judge : Error → Nat → Task σ Bool} {send : ρ → Task σ α} {request : ρ}
  {attempt : Nat} {next : Error → Task σ α} {s s' : σ}

/-- A success ends the attempts. -/
theorem tryOnce_done {a : α} (h : send request s = (.done a, s')) :
    tryOnce judge send request attempt next s = (.done a, s') := by
  simp [tryOnce, Task.bind_apply, Task.attempt, h]

theorem tryOnce_unfinished (h : send request s = (.unfinished, s')) :
    tryOnce judge send request attempt next s = (.unfinished, s') := by
  simp [tryOnce, Task.bind_apply, Task.attempt, h]

/-- A failure is judged. -/
theorem tryOnce_failed {e : Error} {again : Bool} {s₁ : σ} (h : send request s = (.failed e, s'))
    (hjudge : judge e attempt s' = (.done again, s₁)) :
    tryOnce judge send request attempt next s = if again then next e s₁ else (.failed e, s₁) := by
  cases again <;> simp [tryOnce, Task.bind_apply, Task.attempt, h, hjudge]

end Attempt

/-! ## Calls -/

/-- A call that is made for a request. -/
inductive RetryCall where
  /-- an attempt with this request -/
  | send (request : Request) (outcome : Outcome Response)
  /-- the pause after the attempt with this number -/
  | pause (attempt : Nat) (ended : Outcome Unit)

/-- The calls of attempts that have failed with these errors, each with the pause after it. -/
def failedCalls (r : Request) (errors : List Error) : List RetryCall :=
  errors.zipIdx.flatMap fun (e, i) => [.send r (.failed e), .pause i (.done ())]

theorem failedCalls_concat (r : Request) (errors : List Error) (e : Error) :
    failedCalls r (errors ++ [e]) =
      failedCalls r errors ++ [.send r (.failed e), .pause errors.length (.done ())] := by
  simp [failedCalls, List.zipIdx_append]

/-- Among such calls every pause has taken its whole time. -/
theorem ended_of_mem_failedCalls {r : Request} {errors : List Error} {attempt : Nat}
    {ended : Outcome Unit} (h : RetryCall.pause attempt ended ∈ failedCalls r errors) :
    ended = .done () := by
  obtain ⟨⟨e, i⟩, -, hmem⟩ := List.mem_flatMap.1 h
  simp only [List.mem_cons, List.not_mem_nil, or_false, reduceCtorEq, false_or,
    RetryCall.pause.injEq] at hmem
  exact hmem.2

/-- The same calls by the numbers of the attempts. -/
theorem failedCalls_eq (r : Request) (errors : List Error) {outcomes : Nat → Outcome Response}
    (h : ∀ i (hi : i < errors.length), outcomes i = .failed errors[i]) :
    failedCalls r errors = (List.range errors.length).flatMap fun i =>
      [.send r (outcomes i), .pause i (.done ())] := by
  induction errors using List.reverseRecOn with
  | nil => rfl
  | append_singleton errors e ih =>
    have hinit : ∀ i (hi : i < errors.length), outcomes i = .failed errors[i] := by
      intro i hi
      have hi' : i < (errors ++ [e]).length := by
        rw [List.length_append]
        omega
      rw [h i hi', List.getElem_append_left hi]
    have hlast : outcomes errors.length = .failed e := by
      rw [h errors.length (by simp), List.getElem_concat_length rfl]
    rw [failedCalls_concat, ih hinit, List.length_append, List.length_singleton, List.range_succ,
      List.flatMap_append, List.flatMap_singleton, hlast]

/-- The outcome of the attempt with this number, if attempts fail with these errors and all others
end in the same way. -/
def outcomesOf (errors : List Error) (o : Outcome Response) (attempt : Nat) : Outcome Response :=
  (errors[attempt]?.map .failed).getD o

theorem outcomesOf_lt {errors : List Error} (o : Outcome Response) {i : Nat}
    (hi : i < errors.length) : outcomesOf errors o i = .failed errors[i] := by
  rw [outcomesOf, List.getElem?_eq_getElem hi]
  rfl

theorem outcomesOf_length (errors : List Error) (o : Outcome Response) :
    outcomesOf errors o errors.length = o := by
  rw [outcomesOf, List.getElem?_eq_none (Nat.le_refl _)]
  rfl

/-- The second session is the first one, in which perhaps an error was judged. -/
def Session.Judged (s s' : Session) : Prop :=
  s' = s ∨ ∃ e attempt, s' = s.noted (.judged e attempt)

theorem Session.Judged.now_eq {s s' : Session} (h : s.Judged s') : s'.now = s.now := by
  rcases h with rfl | ⟨e, attempt, rfl⟩ <;> rfl

/-- Does the outcome of the attempt with this number settle the matter? It does if it is no failure,
or one that is not worth another attempt, or if no attempt is left. -/
def RetryPolicy.Settles (policy : RetryPolicy) (attempt : Nat) (o : Outcome Response) : Prop :=
  (∀ e, o ≠ .failed e) ∨ (∃ e, o = .failed e ∧ policy.rule e attempt = false) ∨
    attempt = policy.limit

namespace Client

variable (c : Client) (send : Request → Task Session Response) (r : Request) (start : Session)

/-- The way of making an attempt that enters it. -/
def enteredSend (request : Request) : Task (Session × Ledger Session RetryCall) Response :=
  (send request).entered (.send request)

/-- The judgement next to a ledger. -/
def silentJudge (e : Error) (attempt : Nat) : Task (Session × Ledger Session RetryCall) Bool :=
  (c.judge e attempt).unentered

/-- The attempts of a client, entered in a ledger with the pauses between them. -/
def enteredFrom (left attempt : Nat) : Task (Session × Ledger Session RetryCall) Response :=
  retryFrom c.silentJudge
    (fun n => (Session.pause r.lifetime c.retry.backoff n).entered (.pause n)) (enteredSend send) r
    left attempt

/-- All attempts and pauses of a client. -/
def attemptLedger : Ledger Session RetryCall :=
  (c.enteredFrom send r c.retry.limit 0 (start, [])).2.2

/-- One attempt is that of the client, if what comes next is. -/
theorem mirrors_tryOnce (attempt : Nat) {next : Error → Task Session Response}
    {next' : Error → Task (Session × Ledger Session RetryCall) Response}
    (hnext : ∀ e, Task.Mirrors (next' e) (next e)) :
    Task.Mirrors (tryOnce c.silentJudge (enteredSend send) r attempt next')
      (tryOnce c.judge send r attempt next) := by
  have hsend : Task.Mirrors (enteredSend send r) (send r) := .entered _ _
  refine .bind hsend.attempt fun outcome => ?_
  cases outcome with
  | ok response => exact .pure response
  | error e =>
    refine .bind (.unentered _) fun again => ?_
    cases again with
    | true => exact hnext e
    | false => exact .fail e

/-- **The ledger is that of the attempts themselves.** -/
theorem mirrors_enteredFrom (left attempt : Nat) :
    Task.Mirrors (c.enteredFrom send r left attempt)
      (retryFrom c.judge (Session.pause r.lifetime c.retry.backoff) send r left attempt) := by
  induction left generalizing attempt with
  | zero => exact c.mirrors_tryOnce send r attempt fun e => .fail e
  | succ left ih =>
    exact c.mirrors_tryOnce send r attempt fun _ => .bind (.entered _ _) fun _ => ih (attempt + 1)

/-! ## The invariant -/

/-- What holds of a call, given the calls before it: it starts at the moment at which the one before
it was over, and it is what it says. -/
def Attempts (earlier : Ledger Session RetryCall) (e : Entry Session RetryCall) : Prop :=
  e.before.now = (earlier.last start).now ∧
    match e.call with
    | .send request outcome => send request e.before = (outcome, e.after)
    | .pause attempt ended =>
      Session.pause r.lifetime c.retry.backoff attempt e.before = (ended, e.after)

/-- Attempts that have failed with these errors, the calls of these and others, and the state. -/
structure Failing (errors : List Error) (others : List RetryCall) (es : Ledger Session RetryCall)
    (s : Session) : Prop where
  /-- each attempt was made and has failed, and each has a pause after it -/
  calls : es.map (·.call) = failedCalls r errors ++ others
  /-- none has settled the matter -/
  unsettled : ∀ i (h : i < errors.length), ¬ c.retry.Settles i (.failed errors[i])
  /-- every call follows from those before it -/
  attempts : es.Each (c.Attempts send r start)
  /-- no time has passed since the last call -/
  now_eq : s.now = (es.last start).now

variable {c send r start} {errors : List Error} {es : Ledger Session RetryCall} {s : Session}

/-- Another attempt is entered, whatever its outcome. -/
theorem Failing.sent (h : c.Failing send r start errors [] es s) {s' : Session}
    (hs' : s'.now = (send r s).2.now) :
    c.Failing send r start errors [.send r (send r s).1]
      (es ++ [⟨.send r (send r s).1, s, (send r s).2⟩]) s' where
  calls := by rw [List.map_append, h.calls, List.append_nil, List.map_singleton]
  unsettled := h.unsettled
  attempts := h.attempts.concat ⟨h.now_eq, rfl⟩
  now_eq := by rw [hs', Ledger.last_concat]

/-- **A failed attempt keeps the invariant**, with the pause after it, if it has not settled the
matter. -/
theorem Failing.paused {e : Error} (h : c.Failing send r start errors [.send r (.failed e)] es s)
    (hsettles : ¬ c.retry.Settles errors.length (.failed e)) {s' : Session}
    (hpause : Session.pause r.lifetime c.retry.backoff errors.length s = (.done (), s')) :
    c.Failing send r start (errors ++ [e]) []
      (es ++ [⟨.pause errors.length (.done ()), s, s'⟩]) s' where
  calls := by
    rw [List.map_append, h.calls, List.map_singleton, failedCalls_concat, List.append_nil,
      List.append_assoc]
    rfl
  unsettled := by
    intro i hi
    rw [List.length_append, List.length_singleton] at hi
    by_cases hlt : i < errors.length
    · rw [List.getElem_append_left hlt]
      exact h.unsettled i hlt
    · obtain rfl : i = errors.length := by omega
      rwa [List.getElem_concat_length rfl]
  attempts := h.attempts.concat ⟨h.now_eq, hpause⟩
  now_eq := by rw [Ledger.last_concat]

/-! ## All attempts -/

/-- **Inversion for an attempt**: what comes next goes on from its error, or its outcome is that of
the whole. -/
theorem tryOnce_inv (attempt : Nat)
    {next : Error → Task (Session × Ledger Session RetryCall) Response}
    {o : Outcome Response} {s' : Session} {es' : Ledger Session RetryCall}
    (h : tryOnce c.silentJudge (enteredSend send) r attempt next (s, es) = (o, s', es')) :
    (∃ e s₁, (send r s).1 = .failed e ∧ c.retry.rule e attempt = true ∧
        (send r s).2.Judged s₁ ∧
        next e (s₁, es ++ [⟨.send r (send r s).1, s, (send r s).2⟩]) = (o, s', es')) ∨
      ((∀ e, (send r s).1 = .failed e → c.retry.rule e attempt = false) ∧ o = (send r s).1 ∧
        (send r s).2.Judged s' ∧
        es' = es ++ [⟨.send r (send r s).1, s, (send r s).2⟩]) := by
  have hsend : enteredSend send r (s, es) =
      ((send r s).1, (send r s).2, es ++ [⟨.send r (send r s).1, s, (send r s).2⟩]) := rfl
  rcases ho : (send r s).1 with response | e | _
  · rw [ho] at hsend
    rw [tryOnce_done hsend, Prod.mk.injEq, Prod.mk.injEq] at h
    obtain ⟨rfl, rfl, rfl⟩ := h
    exact .inr ⟨nofun, rfl, .inl rfl, rfl⟩
  · rw [ho] at hsend
    have hjudge : c.silentJudge e attempt
        ((send r s).2, es ++ [⟨.send r (.failed e), s, (send r s).2⟩]) =
        (.done (c.retry.rule e attempt), (send r s).2.noted (.judged e attempt),
          es ++ [⟨.send r (.failed e), s, (send r s).2⟩]) := rfl
    rw [tryOnce_failed hsend hjudge] at h
    by_cases hrule : c.retry.rule e attempt = true
    · rw [if_pos hrule] at h
      exact .inl ⟨e, (send r s).2.noted (.judged e attempt), rfl, hrule, .inr ⟨e, attempt, rfl⟩, h⟩
    · rw [if_neg hrule, Prod.mk.injEq, Prod.mk.injEq] at h
      obtain ⟨rfl, rfl, rfl⟩ := h
      refine .inr ⟨?_, rfl, .inr ⟨e, attempt, rfl⟩, rfl⟩
      intro e' he
      cases he
      exact Bool.eq_false_of_not_eq_true hrule
  · rw [ho] at hsend
    rw [tryOnce_unfinished hsend, Prod.mk.injEq, Prod.mk.injEq] at h
    obtain ⟨rfl, rfl, rfl⟩ := h
    exact .inr ⟨nofun, rfl, .inl rfl, rfl⟩

/-- **A client makes attempts until one of them settles the matter**, if its lifetime goes on. -/
theorem enteredFrom_calls {left : Nat} (hlimit : errors.length + left = c.retry.limit)
    (h : c.Failing send r start errors [] es s) {o : Outcome Response} {s' : Session}
    {es' : Ledger Session RetryCall}
    (hr : c.enteredFrom send r left errors.length (s, es) = (o, s', es'))
    (hlive : r.lifetime.ending? s'.now = none) :
    ∃ errors', c.retry.Settles errors'.length o ∧
      c.Failing send r start errors' [.send r o] es' s' := by
  -- by the attempts left; `Failing` is what an attempt and its pause hand to the next attempt
  induction left generalizing errors es s with
  | zero =>
    rcases tryOnce_inv _ hr with ⟨e, s₁, ho, -, hjudged, hnext⟩ | ⟨-, rfl, hjudged, rfl⟩
    · rw [Task.fail_apply, Prod.mk.injEq, Prod.mk.injEq] at hnext
      obtain ⟨rfl, rfl, rfl⟩ := hnext
      refine ⟨errors, .inr (.inr hlimit), ?_⟩
      rw [← ho]
      exact h.sent hjudged.now_eq
    · exact ⟨errors, .inr (.inr hlimit), h.sent hjudged.now_eq⟩
  | succ left ih =>
    rcases tryOnce_inv _ hr with ⟨e, s₁, ho, hrule, hjudged, hnext⟩ | ⟨hrule, rfl, hjudged, rfl⟩
    · have hsent := h.sent hjudged.now_eq
      rw [ho] at hsent hnext
      have hsettles : ¬ c.retry.Settles errors.length (.failed e) := by
        rintro (hne | ⟨e', he, hfalse⟩ | heq)
        · exact hne e rfl
        · cases he
          rw [hrule] at hfalse
          cases hfalse
        · omega
      rcases Task.entered_bind_inv hnext with ⟨_, s₂, hpause, hnext⟩ | ⟨o', hended, hne, heq⟩
      · refine ih ?_ (hsent.paused hsettles hpause) ?_
        · rw [List.length_append, List.length_singleton]
          omega
        · rw [List.length_append, List.length_singleton]
          exact hnext
      · -- the lifetime has ended the pause
        rw [Prod.mk.injEq, Prod.mk.injEq] at heq
        obtain ⟨-, rfl, -⟩ := heq
        rw [Session.pause_of_live hlive] at hended
        exact absurd hended hne
    · refine ⟨errors, ?_, h.sent hjudged.now_eq⟩
      rcases ho : (send r s).1 with response | e | _
      · exact .inl fun e he => by cases he
      · exact .inr (.inl ⟨e, rfl, hrule e ho⟩)
      · exact .inl fun e he => by cases he

variable (c send r s) in
/-- **Which attempts a client makes, and when.** If its lifetime goes on, it makes attempts up to
the first one that settles the matter, each with the same request, and the outcome of this one is
the outcome of the whole. After each of the others it pauses once, as long as the schedule says;
nothing else takes any time. -/
theorem attemptsBy_calls (hlive : r.lifetime.ending? (c.attemptsBy send r s).2.now = none) :
    ∃ (n : Nat) (outcomes : Nat → Outcome Response),
      IsLeast {i | c.retry.Settles i (outcomes i)} n ∧
      (c.attemptsBy send r s).1 = outcomes n ∧
      (c.attemptLedger send r s).map (·.call) =
        (List.range n).flatMap (fun i => [.send r (outcomes i), .pause i (.done ())]) ++
          [.send r (outcomes n)] ∧
      (c.attemptLedger send r s).Each (fun earlier e => e.before.now = (earlier.last s).now ∧
        match e.call with
        | .send request outcome => send request e.before = (outcome, e.after)
        | .pause attempt _ => e.after = e.before.paused c.retry.backoff attempt) ∧
      (c.attemptsBy send r s).2.now = ((c.attemptLedger send r s).last s).now := by
  rcases hrun : c.enteredFrom send r c.retry.limit 0 (s, []) with ⟨o, s', es⟩
  obtain ⟨hout, hstate⟩ := c.mirrors_enteredFrom send r c.retry.limit 0 s []
  rw [hrun] at hout hstate
  have hwhole : c.attemptsBy send r s = (o, s') := Prod.ext hout.symm hstate.symm
  have hledger : c.attemptLedger send r s = es := by rw [attemptLedger, hrun]
  rw [hwhole] at hlive
  rw [hwhole, hledger]
  have hstart : c.Failing send r s [] [] [] s :=
    ⟨rfl, fun i hi => absurd hi (Nat.not_lt_zero i), Ledger.each_nil, rfl⟩
  obtain ⟨errors, hsettles, hcalls, hunsettled, hattempts, hnow⟩ :=
    enteredFrom_calls (Nat.zero_add _) hstart hrun hlive
  refine ⟨errors.length, outcomesOf errors o, ⟨?_, ?_⟩, (outcomesOf_length errors o).symm, ?_, ?_,
    hnow⟩
  · rwa [← outcomesOf_length errors o] at hsettles
  · intro i hi
    by_contra hlt
    have hunsettled := hunsettled i (not_le.1 hlt)
    rw [← outcomesOf_lt o] at hunsettled
    exact hunsettled hi
  · rw [hcalls, outcomesOf_length, failedCalls_eq r errors fun i hi => outcomesOf_lt o hi]
  · intro earlier e hpre
    obtain ⟨hbefore, hcall⟩ := hattempts earlier e hpre
    refine ⟨hbefore, ?_⟩
    cases hc : e.call with
    | send request outcome =>
      rw [hc] at hcall
      exact hcall
    | pause attempt ended =>
      rw [hc] at hcall
      have hmem : RetryCall.pause attempt ended ∈ es.map (·.call) :=
        List.mem_map.2 ⟨e, hpre.subset (by simp), hc⟩
      rw [hcalls, List.mem_append, List.mem_singleton] at hmem
      obtain rfl := ended_of_mem_failedCalls (hmem.resolve_right nofun)
      exact Session.eq_paused_of_pause_done hcall

end Client

namespace Loopback

/-- The client when it retries, a second after each failure. -/
def patient : Client := { client with retry := ⟨.constant (.ofMillis 1000), 5, .transient⟩ }

/-- The request for the front page of the server. -/
def frontPage : Request :=
  .bare .unbounded "GET" ⟨"http", "", none, some (.ipv6 ⟨[0, 0, 0, 0, 0, 0, 0, 1]⟩), none,
    .segments [""], none, none⟩

/-- A session in which the server does not answer at first. -/
def slowSession : Session := session [⟨0, .failure .timedOut⟩, answer (.string "welcome")]

/-- The second attempt settles the matter, after one pause. -/
theorem attemptsBy_calls_patient :
    ∃ outcomes : Nat → Outcome Response,
      IsLeast {i | patient.retry.Settles i (outcomes i)} 1 ∧
      (patient.attemptsBy patient.attempt frontPage slowSession).1 = outcomes 1 ∧
      (patient.attemptLedger patient.attempt frontPage slowSession).map (·.call) =
        [.send frontPage (outcomes 0), .pause 0 (.done ()), .send frontPage (outcomes 1)] := by
  obtain ⟨n, outcomes, hleast, hout, hcalls, -⟩ :=
    Client.attemptsBy_calls patient patient.attempt frontPage slowSession rfl
  have hlen : (patient.attemptLedger patient.attempt frontPage slowSession).length = 3 := by
    decide +kernel
  obtain rfl : n = 1 := by
    have hlengths := congrArg List.length hcalls
    rw [List.length_map, hlen, List.length_append, List.length_flatMap] at hlengths
    simp only [List.length_cons, List.length_nil, List.map_const', List.length_range,
      List.sum_replicate_nat] at hlengths
    omega
  exact ⟨outcomes, hleast, hout, hcalls⟩

end Loopback

end CloudClient
