import CloudClient.Client.Actions

/-!
# What tasks note in the log

Whoever reads the log wants to know what it can hold. A task *notes only* events with a property if
all that it adds to the log has the property, and if it takes nothing out of the log. This is kept
by everything that tasks are made of, so it can be read off the text of a task:

* waits, counts and the transcript leave the log alone (`NotesOnly.of_log_eq`);
* a round trip notes the request that it sends, and nothing else (`notesOnly_roundTrip`);
* so whatever a client does, it sends only the requests that it was told to send, no matter what is
  answered and how often it tries (`notesOnly_execute`).
-/

namespace CloudClient

variable {α β ρ : Type} {P : Event → Prop}

/-- Everything that the task adds to the log has the property, and nothing is taken out of it. -/
def NotesOnly (P : Event → Prop) (t : Task Session α) : Prop :=
  ∀ s, ∃ added, (t s).2.log = added ++ s.log ∧ ∀ x ∈ added, P x.2

namespace NotesOnly

/-! ## Tasks in general -/

/-- A task that leaves the log alone notes nothing. -/
theorem of_log_eq {t : Task Session α} (h : ∀ s, (t s).2.log = s.log) : NotesOnly P t := by
  intro s
  exact ⟨[], h s, fun x hx => absurd hx List.not_mem_nil⟩

theorem pure (a : α) : NotesOnly P (Pure.pure a : Task Session α) := of_log_eq fun _ => rfl

theorem fail (e : Error) : NotesOnly P (Task.fail e : Task Session α) := of_log_eq fun _ => rfl

theorem giveUp : NotesOnly P (Task.giveUp : Task Session α) := of_log_eq fun _ => rfl

theorem state : NotesOnly P (Task.state : Task Session Session) := of_log_eq fun _ => rfl

theorem ofExcept (r : Except Error α) : NotesOnly P (Task.ofExcept r) := by
  cases r with
  | ok a => exact pure a
  | error e => exact fail e

/-- The second task need only be looked at from where the first one has led to. -/
theorem bind_of_done {t : Task Session α} {f : α → Task Session β} (ht : NotesOnly P t)
    (hf : ∀ a s s', t s = (.done a, s') → NotesOnly P (f a)) : NotesOnly P (t >>= f) := by
  intro s
  obtain ⟨added, hlog, hP⟩ := ht s
  rcases h : t s with ⟨a | e | _, s'⟩
  · obtain ⟨added', hlog', hP'⟩ := hf a s s' h s'
    rw [Task.bind_done h]
    -- the log has its latest entry first, so what the second task adds comes in front
    refine ⟨added' ++ added, ?_, ?_⟩
    · rw [hlog', List.append_assoc, ← hlog, h]
    · intro x hx
      rcases List.mem_append.1 hx with hx | hx
      · exact hP' x hx
      · exact hP x hx
  · rw [Task.bind_failed h]
    rw [h] at hlog
    exact ⟨added, hlog, hP⟩
  · rw [Task.bind_unfinished h]
    rw [h] at hlog
    exact ⟨added, hlog, hP⟩

theorem bind {t : Task Session α} {f : α → Task Session β} (ht : NotesOnly P t)
    (hf : ∀ a, NotesOnly P (f a)) : NotesOnly P (t >>= f) :=
  ht.bind_of_done fun a _ _ _ => hf a

/-- The next task need only be looked at for the value that is known already. -/
theorem ofExcept_bind {r : Except Error α} {f : α → Task Session β}
    (hf : ∀ a, r = .ok a → NotesOnly P (f a)) : NotesOnly P (Task.ofExcept r >>= f) := by
  refine (ofExcept r).bind_of_done fun a s s' h => ?_
  cases r with
  | ok b =>
    obtain rfl : b = a := by
      rw [Task.ofExcept, Task.pure_apply, Prod.mk.injEq, Outcome.done.injEq] at h
      exact h.1
    exact hf b rfl
  | error e => cases h

theorem attempt {t : Task Session α} (ht : NotesOnly P t) : NotesOnly P t.attempt := by
  intro s
  obtain ⟨added, hlog, hP⟩ := ht s
  refine ⟨added, ?_, hP⟩
  rw [← hlog, Task.attempt]
  rcases t s with ⟨a | e | _, s'⟩ <;> rfl

end NotesOnly

/-! ## Sessions -/

namespace Session

theorem notesOnly_wait (l : Lifetime) (millis : Nat) : NotesOnly P (wait l millis) := by
  refine .of_log_eq fun s => ?_
  rw [wait]
  rcases l.wait s.now millis with ⟨moment, _ | ending⟩ <;> rfl

theorem notesOnly_pause (l : Lifetime) (b : Backoff) (attempt : Nat) :
    NotesOnly P (pause l b attempt) :=
  .bind .state fun _ => notesOnly_wait l _

theorem notesOnly_note {event : Event} (h : P event) : NotesOnly P (note event) := by
  intro s
  refine ⟨[(s.now, event)], rfl, fun x hx => ?_⟩
  obtain rfl := List.mem_singleton.1 hx
  exact h

theorem notesOnly_send {r : Request} (h : P (.sent r)) : NotesOnly P (send r) := by
  intro s
  refine ⟨[(s.now, .sent r)], rfl, fun x hx => ?_⟩
  obtain rfl := List.mem_singleton.1 hx
  exact h

theorem notesOnly_receive (l : Lifetime) (reply : Reply) : NotesOnly P (receive l reply) := by
  rcases reply with e | ⟨status, headers, bodyDelay, e | bytes⟩
  · exact .fail _
  · exact .bind (notesOnly_wait l bodyDelay) fun _ => .fail _
  · exact .bind (notesOnly_wait l bodyDelay) fun _ => .pure _

/-- **A round trip notes the request that it sends, and nothing else.** -/
theorem notesOnly_roundTrip (timeout : Option Nat) {r : Request} (h : P (.sent r)) :
    NotesOnly P (roundTrip timeout r) := by
  refine .bind (notesOnly_wait r.lifetime 0) fun _ => ?_
  split
  · exact .fail _
  · exact .bind (notesOnly_send h) fun _ => .bind (notesOnly_wait _ _) fun _ =>
      notesOnly_receive _ _

theorem notesOnly_transcribe (bytes : Bytes) : NotesOnly P (transcribe bytes) :=
  .of_log_eq fun _ => rfl

theorem notesOnly_observe (r : Request) (status : Http.Status) : NotesOnly P (observe r status) :=
  .of_log_eq fun _ => rfl

end Session

/-! ## Retries and pages -/

section Retries

variable {judge : Error → Nat → Task Session Bool} {pause : Nat → Task Session Unit}
  {send : ρ → Task Session α} {request : ρ}

theorem notesOnly_tryOnce (hjudge : ∀ e n, NotesOnly P (judge e n))
    (hsend : NotesOnly P (send request)) (attempt : Nat) {next : Error → Task Session α}
    (hnext : ∀ e, NotesOnly P (next e)) :
    NotesOnly P (tryOnce judge send request attempt next) := by
  refine .bind hsend.attempt fun r => ?_
  cases r with
  | ok a => exact .pure a
  | error e =>
    refine .bind (hjudge e attempt) fun again => ?_
    cases again with
    | true => exact hnext e
    | false => exact .fail e

theorem notesOnly_retryFrom (hjudge : ∀ e n, NotesOnly P (judge e n))
    (hpause : ∀ n, NotesOnly P (pause n)) (hsend : NotesOnly P (send request))
    (left attempt : Nat) : NotesOnly P (retryFrom judge pause send request left attempt) := by
  induction left generalizing attempt with
  | zero => exact notesOnly_tryOnce hjudge hsend attempt fun e => .fail e
  | succ left ih =>
    exact notesOnly_tryOnce hjudge hsend attempt fun _ => .bind (hpause attempt) fun _ =>
      ih (attempt + 1)

end Retries

theorem notesOnly_collectFrom {fetch : Nat → Task Session (Page α)}
    (hfetch : ∀ page, NotesOnly P (fetch page)) (rounds number : Nat) :
    NotesOnly P (Paging.collectFrom fetch rounds number) := by
  induction rounds generalizing number with
  | zero => exact .giveUp
  | succ rounds ih =>
    refine .bind (hfetch number) fun page => ?_
    split
    · exact .pure _
    · exact .bind (ih _) fun _ => .pure _

/-! ## Requests -/

/-- The request whose sending the event is. -/
def Event.request? : Event → Option Request
  | .sent r => some r
  | _ => none

/-- The requests that were sent between two states of a session, the earliest one first. -/
def Session.sentBetween (before after : Session) : List Request :=
  ((after.log.take (after.log.length - before.log.length)).filterMap (·.2.request?)).reverse

/-- What was noted between two states of a session, the earliest event first. -/
def Session.notedBetween (before after : Session) : List (Moment × Event) :=
  (after.log.take (after.log.length - before.log.length)).reverse

/-- What was noted is what has been added to the log. -/
theorem Session.notedBetween_of_log_eq {before after : Session} {added : List (Moment × Event)}
    (h : after.log = added ++ before.log) : before.notedBetween after = added.reverse := by
  rw [notedBetween, h, List.length_append, Nat.add_sub_cancel, List.take_left]

/-- What the events between two states of a session are read as, the earliest one first. -/
def Session.readBetween (read : Event → Option α) (before after : Session) : List α :=
  ((after.log.take (after.log.length - before.log.length)).filterMap (read ·.2)).reverse

/-- From one state to another, the log has got events that are read as these values in turn. -/
def Session.Reads (read : Event → Option α) (xs : List α) (before after : Session) : Prop :=
  ∃ added, after.log = added ++ before.log ∧ (added.filterMap (read ·.2)).reverse = xs

namespace Session.Reads

variable {read : Event → Option α} {xs ys : List α} {s s' s'' : Session}

/-- An unchanged log has got nothing. -/
theorem of_log_eq (h : s'.log = s.log) : Reads read [] s s' := ⟨[], h, rfl⟩

theorem noted (event : Event) (s : Session) :
    Reads read (read event).toList s (s.noted event) := by
  refine ⟨[(s.now, event)], rfl, ?_⟩
  cases h : read event <;> simp [h]

theorem trans (h : Reads read xs s s') (h' : Reads read ys s' s'') :
    Reads read (xs ++ ys) s s'' := by
  obtain ⟨added, hlog, hread⟩ := h
  obtain ⟨added', hlog', hread'⟩ := h'
  refine ⟨added' ++ added, by rw [hlog', hlog, List.append_assoc], ?_⟩
  rw [List.filterMap_append, List.reverse_append, hread, hread']

/-- The values are those that can be read off the log. -/
theorem readBetween_eq (h : Reads read xs s s') : s.readBetween read s' = xs := by
  obtain ⟨added, hlog, hread⟩ := h
  rw [readBetween, hlog, List.length_append, Nat.add_sub_cancel, List.take_left, hread]

end Session.Reads

/-- A task that notes only what says nothing adds nothing that can be read. -/
theorem NotesOnly.reads {read : Event → Option β} {t : Task Session α}
    (h : NotesOnly (fun event => read event = none) t) (s : Session) :
    Session.Reads read [] s (t s).2 := by
  obtain ⟨added, hlog, hnone⟩ := h s
  refine ⟨added, hlog, ?_⟩
  rw [List.filterMap_eq_nil_iff.2 hnone]
  rfl

/-- The property of being no request, or one with a property. -/
def OnlyRequests (R : Request → Prop) (event : Event) : Prop := ∀ r, event = .sent r → R r

/-- All requests that a task sends have the property. -/
theorem NotesOnly.of_mem_sentBetween {R : Request → Prop} {t : Task Session α}
    (h : NotesOnly (OnlyRequests R) t) {s : Session} {r : Request}
    (hr : r ∈ s.sentBetween (t s).2) : R r := by
  obtain ⟨added, hlog, hR⟩ := h s
  rw [Session.sentBetween, hlog, List.length_append, Nat.add_sub_cancel, List.take_left,
    List.mem_reverse] at hr
  obtain ⟨⟨moment, event⟩, hx, hsent⟩ := List.mem_filterMap.1 hr
  refine hR _ hx r ?_
  cases event with
  | sent r' => exact congrArg Event.sent (Option.some.inj hsent)
  | _ => cases hsent

/-! ## Clients -/

namespace Client

variable (c : Client)

theorem notesOnly_countedTrip {r : Request} (h : P (.sent r)) : NotesOnly P (c.countedTrip r) := by
  refine .bind (Session.notesOnly_roundTrip _ h) fun response => ?_
  split
  · exact .bind (Session.notesOnly_observe _ _) fun _ => .pure _
  · exact .pure _

theorem notesOnly_judgedTrip {r : Request} (h : P (.sent r)) : NotesOnly P (c.judgedTrip r) :=
  .bind (c.notesOnly_countedTrip h) fun _ => .bind .state fun _ => .ofExcept _

theorem notesOnly_transcribeOutcome (outcome : Except Error Response) :
    NotesOnly P (transcribeOutcome outcome) := by
  cases outcome with
  | ok response => exact Session.notesOnly_transcribe _
  | error e =>
    rw [transcribeOutcome]
    split
    · exact Session.notesOnly_transcribe _
    · exact .pure _

theorem notesOnly_attempt {r : Request} (h : P (.sent r)) : NotesOnly P (c.attempt r) := by
  rw [attempt]
  split
  · exact .bind (Session.notesOnly_transcribe _) fun _ =>
      .bind (c.notesOnly_judgedTrip h).attempt fun outcome =>
        .bind (notesOnly_transcribeOutcome outcome) fun _ => .ofExcept outcome
  · exact c.notesOnly_judgedTrip h

/-- A judgement is noted. -/
theorem notesOnly_judge (hjudged : ∀ e n, P (.judged e n)) (e : Error) (attempt : Nat) :
    NotesOnly P (c.judge e attempt) :=
  .bind (Session.notesOnly_note (hjudged e attempt)) fun _ => .pure _

/-- **Whatever is answered, only the request itself is sent**, and judgements are all that is noted
besides. -/
theorem notesOnly_execute (hjudged : ∀ e n, P (.judged e n)) {r : Request} (h : P (.sent r)) :
    NotesOnly P (c.execute r) :=
  .bind (notesOnly_retryFrom (c.notesOnly_judge hjudged)
    (Session.notesOnly_pause r.lifetime c.retry.backoff) (c.notesOnly_attempt h) _ _)
    fun _ => .ofExcept _

theorem notesOnly_executeJson (hjudged : ∀ e n, P (.judged e n)) (read : Json.Tree → Option α)
    {r : Request} (h : P (.sent r)) : NotesOnly P (c.executeJson read r) :=
  .bind (c.notesOnly_execute hjudged h) fun _ => .bind (.ofExcept _) fun _ => .pure _

/-- Asking for the actions of all pages sends the requests for the pages. -/
theorem notesOnly_pages (hjudged : ∀ e n, P (.judged e n)) (rounds : Nat) (l : Lifetime)
    (f : ActionFilter)
    (h : ∀ page r, c.actionsRequest l (f.atPage page) = .ok r → P (.sent r)) :
    NotesOnly P (c.allActions rounds l f) := by
  refine notesOnly_collectFrom (fun page => ?_) rounds 1
  refine .ofExcept_bind fun r hr => ?_
  exact .bind (c.notesOnly_executeJson hjudged _ (h page r hr)) fun _ => .pure _

/-- **The actions of all pages are asked for with the requests for the pages.** -/
theorem notesOnly_allActions (rounds : Nat) (l : Lifetime) (f : ActionFilter) :
    NotesOnly (OnlyRequests fun r => ∃ page, c.actionsRequest l (f.atPage page) = .ok r)
      (c.allActions rounds l f) := by
  refine c.notesOnly_pages (fun _ _ _ h => by cases h) rounds l f fun page r hr => ?_
  rintro r' heq
  cases heq
  exact ⟨page, hr⟩

end Client

end CloudClient
