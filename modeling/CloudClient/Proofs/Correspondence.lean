import CloudClient.Proofs.Noting
import CloudClient.Proofs.Programs
import Mathlib.Logic.Relation

/-!
# Corresponding runs

Two clients are compared by running both. Whatever a client does is made of a few things: it makes
requests, attempts them, pauses, and notes what has happened. If two clients do these alike, from
sessions that are related in some way, then they do all else alike.

* `Task.Relates R` — from states that are related by `R`, two tasks end alike, and leave states that
  are related. All that tasks are composed of keeps this.
* `Client.attempt_relates` — two attempts of requests, if round trips and records are made alike.
* `Client.Corresponds R Q` — two clients whose attempts of requests that are related by `Q` are so.
* `Call.relates` — then their calls are so.
* `Client.Step` — what a client does to a session, one thing at a time.
* `Call.steps` — a call does nothing else, which is seen by comparing the client with itself.
-/

namespace CloudClient

variable {σ σ' ρ α β τ : Type}

/-! ## Two tasks -/

/-- From states that are related, both tasks end alike, and leave states that are related. -/
def Task.Relates (R : σ → σ' → Prop) (t : Task σ α) (t' : Task σ' α) : Prop :=
  ∀ s s', R s s' → (t' s').1 = (t s).1 ∧ R (t s).2 (t' s').2

namespace Task.Relates

variable {R : σ → σ' → Prop}

/-! ### Tasks in general -/

/-- Tasks that leave the states as they are. -/
theorem of_fst {t : Task σ α} {t' : Task σ' α} (o : Outcome α) (h : ∀ s, t s = (o, s))
    (h' : ∀ s, t' s = (o, s)) : Relates R t t' := by
  intro s s' hs
  rw [h, h']
  exact ⟨rfl, hs⟩

theorem pure (a : α) : Relates R (Pure.pure a : Task σ α) (Pure.pure a) :=
  of_fst (.done a) (fun _ => rfl) fun _ => rfl

theorem fail (e : Error) : Relates R (Task.fail e : Task σ α) (Task.fail e) :=
  of_fst (.failed e) (fun _ => rfl) fun _ => rfl

theorem giveUp : Relates R (Task.giveUp : Task σ α) Task.giveUp :=
  of_fst .unfinished (fun _ => rfl) fun _ => rfl

theorem ofExcept (result : Except Error α) :
    Relates R (Task.ofExcept result : Task σ α) (Task.ofExcept result) := by
  cases result with
  | ok a => exact pure a
  | error e => exact fail e

/-- One task after the other. -/
theorem bind {t : Task σ α} {t' : Task σ' α} {f : α → Task σ β} {f' : α → Task σ' β}
    (ht : Relates R t t') (hf : ∀ a, Relates R (f a) (f' a)) :
    Relates R (t >>= f) (t' >>= f') := by
  intro s s' hs
  obtain ⟨ho, hsame⟩ := ht s s' hs
  rcases h : t s with ⟨a | e | _, s₁⟩ <;> rw [h] at ho hsame
  · have h' : t' s' = (.done a, (t' s').2) := Prod.ext ho rfl
    rw [Task.bind_done h, Task.bind_done h']
    exact hf a _ _ hsame
  · have h' : t' s' = (.failed e, (t' s').2) := Prod.ext ho rfl
    rw [Task.bind_failed h, Task.bind_failed h']
    exact ⟨rfl, hsame⟩
  · have h' : t' s' = (.unfinished, (t' s').2) := Prod.ext ho rfl
    rw [Task.bind_unfinished h, Task.bind_unfinished h']
    exact ⟨rfl, hsame⟩

theorem attempt {t : Task σ α} {t' : Task σ' α} (ht : Relates R t t') :
    Relates R t.attempt t'.attempt := by
  intro s s' hs
  obtain ⟨ho, hsame⟩ := ht s s' hs
  rcases h : t s with ⟨a | e | _, s₁⟩ <;> rw [h] at ho hsame
  · have h' : t' s' = (.done a, (t' s').2) := Prod.ext ho rfl
    rw [Task.attempt_done h, Task.attempt_done h']
    exact ⟨rfl, hsame⟩
  · have h' : t' s' = (.failed e, (t' s').2) := Prod.ext ho rfl
    rw [Task.attempt_failed h, Task.attempt_failed h']
    exact ⟨rfl, hsame⟩
  · have h' : t' s' = (.unfinished, (t' s').2) := Prod.ext ho rfl
    rw [Task.attempt_unfinished h, Task.attempt_unfinished h']
    exact ⟨rfl, hsame⟩

/-- A task that goes on with something that related states have in common. -/
theorem state_bind {g : σ → β} {g' : σ' → β} {f : β → Task σ α} {f' : β → Task σ' α}
    (hg : ∀ s s', R s s' → g' s' = g s) (hf : ∀ b, Relates R (f b) (f' b)) :
    Relates R (Task.state >>= fun s => f (g s)) (Task.state >>= fun s => f' (g' s)) := by
  intro s s' hs
  rw [Task.bind_done (Task.state_apply s), Task.bind_done (Task.state_apply s'), hg s s' hs]
  exact hf (g s) s s' hs

theorem update {f : σ → σ} {f' : σ' → σ'} (hf : ∀ s s', R s s' → R (f s) (f' s')) :
    Relates R (Task.update f) (Task.update f') := by
  intro s s' hs
  exact ⟨rfl, hf s s' hs⟩

/-! ### Retries -/

section Retries

variable {ρ' : Type} {judge : Error → Nat → Task σ Bool} {judge' : Error → Nat → Task σ' Bool}
  {send : ρ → Task σ α} {send' : ρ' → Task σ' α} {r : ρ} {r' : ρ'}

theorem tryOnce (hjudge : ∀ e n, Relates R (judge e n) (judge' e n))
    (hsend : Relates R (send r) (send' r')) (attempt : Nat) {next : Error → Task σ α}
    {next' : Error → Task σ' α} (hnext : ∀ e, Relates R (next e) (next' e)) :
    Relates R (tryOnce judge send r attempt next) (tryOnce judge' send' r' attempt next') := by
  refine hsend.attempt.bind fun outcome => ?_
  cases outcome with
  | ok a => exact pure a
  | error e =>
    refine (hjudge e attempt).bind fun again => ?_
    cases again with
    | true => exact hnext e
    | false => exact fail e

theorem retryFrom {pause : Nat → Task σ Unit} {pause' : Nat → Task σ' Unit}
    (hjudge : ∀ e n, Relates R (judge e n) (judge' e n))
    (hpause : ∀ n, Relates R (pause n) (pause' n)) (hsend : Relates R (send r) (send' r'))
    (left attempt : Nat) :
    Relates R (retryFrom judge pause send r left attempt)
      (retryFrom judge' pause' send' r' left attempt) := by
  induction left generalizing attempt with
  | zero => exact tryOnce hjudge hsend attempt fail
  | succ left ih =>
    exact tryOnce hjudge hsend attempt fun _ => (hpause attempt).bind fun _ => ih (attempt + 1)

end Retries

/-! ### Pages and polls -/

theorem collectFrom {fetch : Nat → Task σ (Page α)} {fetch' : Nat → Task σ' (Page α)}
    (hfetch : ∀ page, Relates R (fetch page) (fetch' page)) (rounds number : Nat) :
    Relates R (Paging.collectFrom fetch rounds number)
      (Paging.collectFrom fetch' rounds number) := by
  induction rounds generalizing number with
  | zero => exact giveUp
  | succ rounds ih =>
    refine (hfetch number).bind fun page => ?_
    cases page.next? with
    | none => exact pure _
    | some next => exact (ih next).bind fun _ => pure _

section Polls

variable {p : Polling σ} {p' : Polling σ'} {report : Reporter σ τ} {report' : Reporter σ' τ}

theorem reportAll (hreport : ∀ kept event, Relates R (report kept event) (report' kept event))
    (kept : τ) (updates : List Action) :
    Relates R (Polling.reportAll report kept updates)
      (Polling.reportAll report' kept updates) := by
  induction updates generalizing kept with
  | nil => exact pure kept
  | cons a rest ih => exact (hreport kept (.update a)).bind ih

theorem once (hpause : ∀ n, Relates R (p.pause n) (p'.pause n))
    (hfetch : ∀ ids, Relates R (p.fetch ids) (p'.fetch ids))
    (hreport : ∀ kept event, Relates R (report kept event) (report' kept event)) (number : Nat)
    (running : List Int) (kept : τ) :
    Relates R (p.once report number running kept) (p'.once report' number running kept) := by
  refine (hpause number).bind fun _ => (hfetch running).bind fun updates => ?_
  split
  · exact (reportAll hreport kept updates).bind fun kept => (hreport kept .pollDone).bind fun _ =>
      pure _
  · exact fail _

theorem loop (hpause : ∀ n, Relates R (p.pause n) (p'.pause n))
    (hfetch : ∀ ids, Relates R (p.fetch ids) (p'.fetch ids))
    (hreport : ∀ kept event, Relates R (report kept event) (report' kept event))
    (rounds number : Nat) (running : List Int) (kept : τ) :
    Relates R (p.loop report rounds number running kept)
      (p'.loop report' rounds number running kept) := by
  induction rounds generalizing number running kept with
  | zero =>
    cases running with
    | nil => exact pure kept
    | cons id rest => exact giveUp
  | succ rounds ih =>
    cases running with
    | nil => exact pure kept
    | cons id rest =>
      exact (once hpause hfetch hreport number (id :: rest) kept).bind fun left =>
        ih (number + 1) left.1 left.2

theorem poll (hpause : ∀ n, Relates R (p.pause n) (p'.pause n))
    (hfetch : ∀ ids, Relates R (p.fetch ids) (p'.fetch ids))
    (hreport : ∀ kept event, Relates R (report kept event) (report' kept event)) (rounds : Nat)
    (kept : τ) (actions : List Action) :
    Relates R (p.poll rounds report kept actions) (p'.poll rounds report' kept actions) :=
  (reportAll hreport kept _).bind fun kept => (hreport kept .pollDone).bind fun kept =>
    loop hpause hfetch hreport rounds 0 _ kept

end Polls

/-! ### Sessions -/

section Sessions

variable {R : Session → Session → Prop} {l : Lifetime}

/-- The clocks show the same, and may be put forward. -/
theorem wait (hnow : ∀ s s', R s s' → s'.now = s.now)
    (hmove : ∀ s s' moment, R s s' → R { s with now := moment } { s' with now := moment })
    (l : Lifetime) (millis : Nat) : Relates R (Session.wait l millis) (Session.wait l millis) := by
  intro s s' hs
  rw [Session.wait, Session.wait, hnow s s' hs]
  rcases l.wait s.now millis with ⟨moment, _ | ending⟩
  · exact ⟨rfl, hmove s s' moment hs⟩
  · exact ⟨rfl, hmove s s' moment hs⟩

theorem pause (hdraw : ∀ s s', R s s' → s'.surroundings.draw = s.surroundings.draw)
    (hwait : ∀ millis, Relates R (Session.wait l millis) (Session.wait l millis)) (b : Backoff)
    (attempt : Nat) : Relates R (Session.pause l b attempt) (Session.pause l b attempt) :=
  state_bind (g := fun s : Session => (b.delay s.surroundings.draw attempt).millis)
    (fun s s' hs => by rw [hdraw s s' hs]) hwait

theorem receive (hwait : ∀ millis, Relates R (Session.wait l millis) (Session.wait l millis))
    (reply : Reply) : Relates R (Session.receive l reply) (Session.receive l reply) := by
  rcases reply with error | ⟨status, headers, bodyDelay, error | bytes⟩
  · exact fail _
  · exact (hwait bodyDelay).bind fun _ => fail _
  · exact (hwait bodyDelay).bind fun _ => pure _

/-- Two requests are sent that bring the same. -/
theorem roundTrip {r r' : Request} (hlifetime : r'.lifetime = r.lifetime) (hurl : r'.url = r.url)
    (hwait : ∀ millis, Relates R (Session.wait r.lifetime millis) (Session.wait r.lifetime millis))
    (hsend : Relates R (Session.send r) (Session.send r')) (timeout : Option Nat) :
    Relates R (Session.roundTrip timeout r) (Session.roundTrip timeout r') := by
  rw [Session.roundTrip, Session.roundTrip, hlifetime, hurl]
  refine (hwait 0).bind fun _ => ?_
  split
  · exact fail _
  · exact hsend.bind fun exchange => (hwait _).bind fun _ => receive hwait _

end Sessions

end Task.Relates

open CloudClient.Task (Relates)

/-! ## Attempts -/

section Attempts

variable {R : Session → Session → Prop} {c c' : Client} {r r' : Request}

theorem Client.countedTrip_relates (hcounts : c'.isInstrumented = c.isInstrumented)
    (htrip : Relates R (Session.roundTrip c.timeout r) (Session.roundTrip c'.timeout r'))
    (hobserve : ∀ status, Relates R (Session.observe r status) (Session.observe r' status)) :
    Relates R (c.countedTrip r) (c'.countedTrip r') := by
  refine htrip.bind fun response => ?_
  rw [hcounts]
  split
  · exact (hobserve response.status).bind fun _ => .pure response
  · exact .pure response

theorem Client.transcribeOutcome_relates
    (htranscribe : ∀ bytes, Relates R (Session.transcribe bytes) (Session.transcribe bytes))
    (outcome : Except Error Response) :
    Relates R (transcribeOutcome outcome) (transcribeOutcome outcome) := by
  cases outcome with
  | ok response => exact htranscribe _
  | error e =>
    rw [transcribeOutcome]
    split
    · exact htranscribe _
    · exact .pure _

/-- **Two clients make attempts alike** if they write down and count alike, if their requests are
written down alike, and if round trips and records are made alike. -/
theorem Client.attempt_relates (hrecords : c'.isTranscribed = c.isTranscribed)
    (hcounts : c'.isInstrumented = c.isInstrumented)
    (hentry : Transcript.requestEntry r' = Transcript.requestEntry r)
    (htime : ∀ s s', R s s' → s'.timeOfDay = s.timeOfDay)
    (htrip : Relates R (Session.roundTrip c.timeout r) (Session.roundTrip c'.timeout r'))
    (hobserve : ∀ status, Relates R (Session.observe r status) (Session.observe r' status))
    (htranscribe : ∀ bytes, Relates R (Session.transcribe bytes) (Session.transcribe bytes)) :
    Relates R (c.attempt r) (c'.attempt r') := by
  have hjudged : Relates R (c.judgedTrip r) (c'.judgedTrip r') :=
    (countedTrip_relates hcounts htrip hobserve).bind fun response =>
      .state_bind (g := Session.timeOfDay)
        (f := fun now => Task.ofExcept (response.limited now).verdict) htime fun _ => .ofExcept _
  rw [attempt, attempt, hrecords, hentry]
  split
  · exact (htranscribe _).bind fun _ => hjudged.attempt.bind fun outcome =>
      (transcribeOutcome_relates htranscribe outcome).bind fun _ => .ofExcept outcome
  · exact hjudged

end Attempts

/-! ## Two clients -/

/-- Two clients that make requests which are related by `Q`, and that do alike with these, from
sessions which are related by `R`, whatever clients do to sessions. -/
structure Client.Corresponds (R : Session → Session → Prop) (Q : Request → Request → Prop)
    (c c' : Client) : Prop where
  retry : c'.retry = c.retry
  pollBackoff : c'.pollBackoff = c.pollBackoff
  lifetime : ∀ {r r'}, Q r r' → r'.lifetime = r.lifetime
  parameters : ∀ {r r'}, Q r r' → ∀ pairs, Q (r.withParameters pairs) (r'.withParameters pairs)
  request : ∀ l method path body,
    (∃ e, c.request l method path body = .error e ∧ c'.request l method path body = .error e) ∨
      ∃ r r', c.request l method path body = .ok r ∧ c'.request l method path body = .ok r' ∧ Q r r'
  note : ∀ {event : Event}, event.request? = none →
    Relates R (Session.note event) (Session.note event)
  pause : ∀ l b n, Relates R (Session.pause l b n) (Session.pause l b n)
  attempt : ∀ {r r'}, Q r r' → Relates R (c.attempt r) (c'.attempt r')

namespace Client.Corresponds

variable {R : Session → Session → Prop} {Q : Request → Request → Prop} {c c' : Client}
  {r r' : Request}

/-! ### Requests -/

theorem attempts (hc : c.Corresponds R Q c') (hr : Q r r') :
    Relates R (c.attempts r) (c'.attempts r') := by
  have hjudge : ∀ e n, Relates R (c.judge e n) (c'.judge e n) := by
    intro e n
    rw [judge, judge, hc.retry]
    exact (hc.note rfl).bind fun _ => .pure _
  rw [Client.attempts, attemptsBy, Client.attempts, attemptsBy, hc.lifetime hr, hc.retry]
  exact .retryFrom hjudge (hc.pause _ _) (hc.attempt hr) _ 0

theorem execute (hc : c.Corresponds R Q c') (hr : Q r r') :
    Relates R (c.execute r) (c'.execute r') :=
  (hc.attempts hr).bind fun _ => .ofExcept _

theorem executeJson (hc : c.Corresponds R Q c') (hr : Q r r') (read : Json.Tree → Option α) :
    Relates R (c.executeJson read r) (c'.executeJson read r') :=
  (hc.execute hr).bind fun _ => (Relates.ofExcept _).bind fun _ => .pure _

/-! ### Actions -/

/-- A request is made, and then something is done with it. -/
theorem request_bind (hc : c.Corresponds R Q c') (l : Lifetime) (method path : String)
    (body : Option Bytes) {f f' : Request → Task Session α}
    (hf : ∀ r r', Q r r' → Relates R (f r) (f' r')) :
    Relates R (Task.ofExcept (c.request l method path body) >>= f)
      (Task.ofExcept (c'.request l method path body) >>= f') := by
  rcases hc.request l method path body with ⟨e, he, he'⟩ | ⟨r, r', hr, hr', hsame⟩
  · rw [he, he']
    exact .fail e
  · rw [hr, hr']
    exact hf r r' hsame

theorem action (hc : c.Corresponds R Q c') (l : Lifetime) (id : Int) :
    Relates R (c.action l id) (c'.action l id) := by
  refine hc.request_bind l "GET" (actionPath id) none fun r r' hr => ?_
  refine (hc.executeJson hr _).attempt.bind fun outcome => ?_
  cases outcome with
  | ok found => exact .pure _
  | error error =>
    change Relates R (missingAction error) (missingAction error)
    unfold missingAction
    split
    · exact .pure _
    · exact .fail _

theorem actions (hc : c.Corresponds R Q c') (l : Lifetime) (f : ActionFilter) :
    Relates R (c.actions l f) (c'.actions l f) := by
  rw [Client.actions, Client.actions, actionsRequest, actionsRequest]
  rcases hc.request l "GET" actionsPath none with ⟨e, he, he'⟩ | ⟨r, r', hr, hr', hsame⟩
  · rw [he, he']
    exact .fail e
  · rw [hr, hr']
    exact (hc.executeJson (hc.parameters hsame f.pairs) _).bind fun _ => .pure _

theorem allActions (hc : c.Corresponds R Q c') (rounds : Nat) (l : Lifetime) (f : ActionFilter) :
    Relates R (c.allActions rounds l f) (c'.allActions rounds l f) :=
  .collectFrom (fun page => hc.actions l (f.atPage page)) rounds 1

/-! ### Waiting and watching -/

/-- Both clients poll alike. -/
theorem poll (hc : c.Corresponds R Q c') (rounds : Nat) (l : Lifetime)
    {report : Reporter Session τ} (hreport : ∀ kept event, Relates R (report kept event)
      (report kept event)) (kept : τ) (actions : List Action) :
    Relates R ((c.polling rounds l).poll rounds report kept actions)
      ((c'.polling rounds l).poll rounds report kept actions) := by
  refine .poll (fun n => ?_) (fun ids => hc.allActions rounds l (.ofIds ids)) hreport rounds kept
    actions
  rw [polling, polling, hc.pollBackoff]
  exact hc.pause l c.pollBackoff n

/-- All that is reported to the log is reported alike. -/
theorem reportOne (hc : c.Corresponds R Q c') (kept : Unit) (event : PollEvent) :
    Relates R (Polling.reportOne logWatcher kept event)
      (Polling.reportOne logWatcher kept event) := by
  cases event with
  | pollDone => exact .pure _
  | update a =>
    rw [Polling.reportOne]
    cases a.error? with
    | none => exact hc.note rfl
    | some e => exact .fail _

theorem reportOverall (hc : c.Corresponds R Q c') (total : UInt32) (kept : OverallProgress)
    (event : PollEvent) :
    Relates R (Polling.reportOverall logWatcher total kept event)
      (Polling.reportOverall logWatcher total kept event) := by
  cases event with
  | update a =>
    rw [Polling.reportOverall]
    cases a.error? with
    | none => exact (Relates.pure ()).bind fun _ => .pure (kept.record a)
    | some e => exact (hc.note rfl).bind fun _ => .pure _
  | pollDone =>
    rw [Polling.reportOverall]
    cases kept.overflows with
    | true => exact Relates.giveUp
    | false =>
      cases kept.news? total with
      | none => exact .pure _
      | some average => exact (hc.note rfl).bind fun _ => .pure _

theorem finished (hc : c.Corresponds R Q c') {t t' : Task Session τ} (ht : Relates R t t') :
    Relates R (Polling.finished logWatcher t) (Polling.finished logWatcher t') :=
  ht.attempt.bind fun _ => hc.note rfl

theorem waitFor (hc : c.Corresponds R Q c') (rounds : Nat) (l : Lifetime) (watched : List Action) :
    Relates R (c.waitFor rounds l watched) (c'.waitFor rounds l watched) := by
  refine hc.poll rounds l (fun kept event => ?_) () watched
  cases event with
  | pollDone => exact .pure _
  | update a =>
    change Relates R (stopAtFailure () a) (stopAtFailure () a)
    rw [stopAtFailure]
    cases a.error? with
    | none => exact .pure _
    | some e => exact .fail _

theorem watchProgress (hc : c.Corresponds R Q c') (rounds : Nat) (l : Lifetime)
    (watched : Action) :
    Relates R (c.watchProgress rounds l watched) (c'.watchProgress rounds l watched) :=
  hc.finished (hc.poll rounds l hc.reportOne () [watched])

theorem watchOverallProgress (hc : c.Corresponds R Q c') (rounds : Nat) (l : Lifetime)
    (watched : List Action) :
    Relates R (c.watchOverallProgress rounds l watched)
      (c'.watchOverallProgress rounds l watched) :=
  hc.finished (hc.poll rounds l (hc.reportOverall _) .start watched)

end Client.Corresponds

/-! ## Calls -/

/-- The same call of two clients. -/
theorem Call.relates {R : Session → Session → Prop} {Q : Request → Request → Prop} {c c' : Client}
    (hc : c.Corresponds R Q c') (hQ : ∀ r, Q r r) (op : Call α) :
    Relates R (op.run c) (op.run c') := by
  cases op with
  | execute r => exact hc.execute (hQ r)
  | executeJson read r => exact hc.executeJson (hQ r) read
  | action l id => exact hc.action l id
  | actions l f => exact hc.actions l f
  | allActions rounds l f => exact hc.allActions rounds l f
  | waitFor rounds l watched => exact hc.waitFor rounds l watched
  | waitReporting rounds l report kept watched =>
    refine hc.poll rounds l (fun kept event => ?_) kept watched
    cases event with
    | pollDone => exact .pure _
    | update a => exact .ofExcept _
  | watchProgress rounds l watched => exact hc.watchProgress rounds l watched
  | watchOverallProgress rounds l watched => exact hc.watchOverallProgress rounds l watched

/-! ## One client -/

/-- What a client does to a session, one thing at a time. -/
inductive Client.Step (c : Client) (s : Session) : Session → Prop
  /-- it notes something that is no request -/
  | note {event : Event} (h : event.request? = none) : Step c s (s.noted event)
  /-- it pauses -/
  | pause (l : Lifetime) (b : Backoff) (attempt : Nat) : Step c s (Session.pause l b attempt s).2
  /-- it makes an attempt -/
  | attempt (r : Request) : Step c s (c.attempt r s).2

/-- **A call leads from one state to another by such steps.** -/
theorem Call.steps (c : Client) (op : Call α) (s₀ : Session) :
    Relation.ReflTransGen c.Step s₀ (op.run c s₀).2 := by
  -- the client is compared with itself, from a state that such steps have led to
  have hlead : ∀ {γ : Type} {t : Task Session γ}, (∀ s, c.Step s (t s).2) →
      Relates (fun s s' => s' = s ∧ Relation.ReflTransGen c.Step s₀ s) t t := by
    rintro γ t ht s s' ⟨rfl, hs⟩
    exact ⟨rfl, rfl, hs.tail (ht _)⟩
  have hc : c.Corresponds (fun s s' => s' = s ∧ Relation.ReflTransGen c.Step s₀ s)
      (fun r r' => r' = r) c := by
    refine ⟨rfl, rfl, fun h => h ▸ rfl, fun h pairs => h ▸ rfl, fun l method path body => ?_,
      fun h => hlead fun s => .note h, fun l b n => hlead fun s => .pause l b n,
      fun h => h ▸ hlead fun s => .attempt _⟩
    cases c.request l method path body with
    | error e => exact .inl ⟨e, rfl, rfl⟩
    | ok r => exact .inr ⟨r, r, rfl, rfl, rfl⟩
  exact (op.relates hc (fun _ => rfl) s₀ s₀ ⟨rfl, .refl⟩).2.2

end CloudClient
