import CloudClient.Proofs.Correspondence
import CloudClient.Proofs.Credentials
import CloudClient.Proofs.Loopback

/-!
# Writing down and counting only observe

A client may write down what it sends and gets, and it may count its round trips. The same program
is run by such a client and by one that does neither. The two runs can be told apart by nothing but
what was written down and counted, even if there is no room for what is written.

* `Client.quiet` — the client that writes nothing down and counts nothing.
* `Session.SameButRecords` — two sessions that differ in what was written down and counted alone.
* `Client.corresponds_quiet` — from such sessions, the attempts of the two clients end alike, and
  leave such sessions; and so do all their calls.
* `Client.results_quiet` — the two clients are made alike, and programs get the same from them.
-/

namespace CloudClient

open CloudClient.Task (Relates)

/-! ## What a program gets -/

/-- Calls a client. What is handed to a function of the caller is noted. -/
def Call.noted (c : Client) {α : Type} : Call α → Task Session α
  | .waitReporting rounds l report kept watched =>
    c.waitReporting rounds l (fun kept a => do
      Session.note (.updated a)
      Task.ofExcept (report kept a)) kept watched
  | op => op.run c

/-- What a program gets from a client: how its calls have ended, each with the moment of its end.
Next to it stands the session at the end. -/
def Program.results (c : Client) :
    Program → Session → List (Moment × Σ α : Type, Outcome α) × Session
  | .stop, s => ([], s)
  | .call op next, s =>
    let ended := op.noted c s
    let others := (next ended.1).results c ended.2
    ((ended.2.now, ⟨_, ended.1⟩) :: others.1, others.2)

/-- The same call of two clients that correspond. -/
theorem Call.noted_relates {α : Type} {R : Session → Session → Prop} {Q : Request → Request → Prop}
    {c c' : Client} (hc : c.Corresponds R Q c') (hQ : ∀ r, Q r r) (op : Call α) :
    Relates R (op.noted c) (op.noted c') := by
  cases op with
  | waitReporting rounds l report kept watched =>
    refine hc.poll rounds l (fun kept event => ?_) kept watched
    cases event with
    | pollDone => exact .pure _
    | update a => exact (hc.note rfl).bind fun _ => .ofExcept _
  | _ => exact Call.relates hc hQ _

/-- To keep the end of a task as a value, and then to end so, changes nothing. -/
theorem Task.attempt_bind_ofExcept {σ α : Type} (t : Task σ α) : t.attempt >>= ofExcept = t := by
  funext s
  rcases h : t s with ⟨a | e | _, s'⟩
  · exact bind_done (attempt_done h)
  · exact bind_done (attempt_failed h)
  · exact bind_unfinished (attempt_unfinished h)

/-! ## Sessions with other records -/

/-- The second session is the first one, but for what was written down and counted. -/
def Session.SameButRecords (s s' : Session) : Prop :=
  s' = { s with transcript := s'.transcript, metrics := s'.metrics }

namespace Session.SameButRecords

variable {α : Type} {s s' : Session}

theorem now_eq (hs : s.SameButRecords s') : s'.now = s.now := by rw [hs]

/-- A change that has nothing to do with what was written down and counted. -/
theorem update {f : Session → Session} (hf : ∀ (s : Session) transcript metrics,
    f { s with transcript, metrics } = { f s with transcript, metrics })
    (hs : s.SameButRecords s') :
    (f s).SameButRecords (f s') := by
  have heq : f s' = { f s with transcript := s'.transcript, metrics := s'.metrics } := by
    rw [← hf, ← hs]
  rw [SameButRecords, heq]

theorem note (event : Event) :
    Relates SameButRecords (Session.note event) (Session.note event) :=
  .update fun _ _ hs => hs.update fun _ _ _ => rfl

theorem wait (l : Lifetime) (millis : Nat) :
    Relates SameButRecords (Session.wait l millis) (Session.wait l millis) :=
  .wait (fun _ _ hs => hs.now_eq) (fun _ _ moment hs =>
    hs.update (f := fun s => { s with now := moment }) fun _ _ _ => rfl) l millis

theorem pause (l : Lifetime) (b : Backoff) (attempt : Nat) :
    Relates SameButRecords (Session.pause l b attempt) (Session.pause l b attempt) :=
  .pause (fun s s' hs => by rw [hs]) (wait l) b attempt

theorem send (r : Request) : Relates SameButRecords (Session.send r) (Session.send r) := by
  intro s s' hs
  refine ⟨by rw [hs]; rfl, ?_⟩
  exact hs.update (f := fun s => { s.noted (.sent r) with trips := s.trips + 1 }) fun _ _ _ => rfl

theorem roundTrip (timeout : Option Nat) (r : Request) :
    Relates SameButRecords (Session.roundTrip timeout r) (Session.roundTrip timeout r) :=
  .roundTrip rfl rfl (wait r.lifetime) (send r) timeout

/-- The second run writes something down first. -/
theorem transcribe_bind (bytes : Bytes) {t t' : Task Session α} (ht : Relates SameButRecords t t') :
    Relates SameButRecords t (Session.transcribe bytes >>= fun _ => t') := by
  intro s s' hs
  refine ht s { s' with transcript := s'.transcript.write bytes } ?_
  rw [SameButRecords, hs]

/-- The second run counts something first. -/
theorem observe_bind (r : Request) (status : Http.Status) {t t' : Task Session α}
    (ht : Relates SameButRecords t t') :
    Relates SameButRecords t (Session.observe r status >>= fun _ => t') := by
  intro s s' hs
  refine ht s { s' with metrics := s'.metrics.observe status r.method r.operation } ?_
  rw [SameButRecords, hs]

end Session.SameButRecords

/-! ## Clients that observe -/

/-- The options without a transcript and without counting. -/
def ClientOptions.quiet (o : ClientOptions) : ClientOptions :=
  { o with isTranscribed := false, isInstrumented := false }

namespace Client

open Session (SameButRecords)

/-- The client that writes nothing down and counts nothing. -/
def quiet (c : Client) : Client := { c with isTranscribed := false, isInstrumented := false }

theorem countedTrip_quiet (c : Client) (r : Request) :
    Relates SameButRecords (c.quiet.countedTrip r) (c.countedTrip r) := by
  refine (SameButRecords.roundTrip c.timeout r).bind fun response => ?_
  change Relates SameButRecords (pure response) (if c.isInstrumented then
    Session.observe r response.status >>= fun _ => pure response else pure response)
  split
  · exact SameButRecords.observe_bind r response.status (.pure response)
  · exact .pure response

theorem judgedTrip_quiet (c : Client) (r : Request) :
    Relates SameButRecords (c.quiet.judgedTrip r) (c.judgedTrip r) :=
  (c.countedTrip_quiet r).bind fun response =>
    .state_bind (g := Session.timeOfDay)
      (f := fun now => Task.ofExcept (response.limited now).verdict)
      (fun s s' hs => by rw [hs]; rfl) fun _ => .ofExcept _

theorem ofExcept_quiet (outcome : Except Error Response) :
    Relates SameButRecords (Task.ofExcept outcome)
      (transcribeOutcome outcome >>= fun _ => Task.ofExcept outcome) := by
  cases outcome with
  | ok response => exact SameButRecords.transcribe_bind _ (.ofExcept _)
  | error error =>
    rw [transcribeOutcome]
    split
    · exact SameButRecords.transcribe_bind _ (.ofExcept _)
    · exact .ofExcept _

theorem attempt_quiet (c : Client) (r : Request) :
    Relates SameButRecords (c.quiet.attempt r) (c.attempt r) := by
  have hquiet : c.quiet.attempt r = c.quiet.judgedTrip r := rfl
  rw [hquiet, attempt]
  split
  · rw [← Task.attempt_bind_ofExcept (c.quiet.judgedTrip r)]
    exact SameButRecords.transcribe_bind _ ((c.judgedTrip_quiet r).attempt.bind ofExcept_quiet)
  · exact c.judgedTrip_quiet r

/-- The client does alike with requests whether it observes or not. -/
theorem corresponds_quiet (c : Client) :
    c.quiet.Corresponds SameButRecords (fun r r' => r' = r) c where
  retry := rfl
  pollBackoff := rfl
  lifetime hr := by rw [hr]
  parameters hr pairs := by rw [hr]
  request l method path body := by
    change (∃ e, c.request l method path body = .error e ∧
        c.request l method path body = .error e) ∨
      ∃ r r', c.request l method path body = .ok r ∧ c.request l method path body = .ok r' ∧ r' = r
    cases c.request l method path body with
    | error e => exact .inl ⟨e, rfl, rfl⟩
    | ok r => exact .inr ⟨r, r, rfl, rfl, rfl⟩
  note _ := SameButRecords.note _
  pause := SameButRecords.pause
  attempt hr := by
    subst hr
    exact c.attempt_quiet _

/-- A client that is made can be made without observing as well, and no registry is asked. -/
theorem build_quiet {o : ClientOptions} {registry r₁ : Registry} {c : Client}
    (hbuild : build o registry = (.done c, r₁)) (registry' : Registry) :
    build o.quiet registry' = (.done c.quiet, registry') := by
  obtain ⟨endpoint, authorization, userAgent, timeout, hendpoint, hauthorization, huserAgent,
    htimeout, rfl⟩ := checked_inv (checked_of_build hbuild)
  have hchecked : o.quiet.checked = .ok ⟨endpoint, authorization, userAgent, timeout, o.retry,
      o.pollBackoff, false, false⟩ := by
    have hendpoint' : o.quiet.checkedEndpoint = .ok endpoint := hendpoint
    have hauthorization' : o.quiet.authorization = .ok authorization := hauthorization
    have huserAgent' : o.quiet.checkedUserAgent = .ok userAgent := huserAgent
    have htimeout' : o.quiet.timeout = .ok timeout := htimeout
    rw [ClientOptions.checked, hendpoint', hauthorization', huserAgent', htimeout']
    rfl
  rw [build, hchecked]
  rfl

end Client

/-- Programs get the same from both clients, at the same moments. -/
theorem Program.results_of_sameButRecords (c : Client) (p : Program) {s s' : Session}
    (hs : s.SameButRecords s') :
    (p.results c s').1 = (p.results c.quiet s).1 ∧
      (p.results c.quiet s).2.SameButRecords (p.results c s').2 := by
  induction p generalizing s s' with
  | stop => exact ⟨rfl, hs⟩
  | call op next ih =>
    obtain ⟨ho, hafter⟩ := op.noted_relates c.corresponds_quiet (fun _ => rfl) s s' hs
    obtain ⟨hresults, hfinal⟩ := ih (op.noted c.quiet s).1 hafter
    simp only [results, ho, hafter.now_eq, hresults]
    exact ⟨trivial, hfinal⟩

/-- **Writing down and counting only observe.** Options by which a client can be made make the same
client without a transcript and without counting, but for these two. It makes the same requests.
From a session in which anything may have been written down and counted, and there may be no room
left for more, a program gets the same from both: each call ends in the same way and at the same
moment. The sessions at the end differ in what was written down and counted alone, so that the same
requests were sent at the same moments, and the same was handed to the caller. -/
theorem Client.results_quiet {o : ClientOptions} {registry r₁ : Registry} {c : Client}
    (hbuild : build o registry = (.done c, r₁)) (registry' : Registry) :
    build o.quiet registry' = (.done c.quiet, registry') ∧
      (∀ l method path body, c.quiet.request l method path body = c.request l method path body) ∧
      ∀ (p : Program) (s : Session) (transcript : Transcript) (metrics : Metrics),
        (p.results c { s with transcript, metrics }).1 = (p.results c.quiet s).1 ∧
          (p.results c.quiet s).2.SameButRecords
            (p.results c { s with transcript, metrics }).2 := by
  refine ⟨build_quiet hbuild registry', fun l method path body => rfl, ?_⟩
  intro p s transcript metrics
  exact p.results_of_sameButRecords c rfl

namespace Loopback

/-- What a client is told that writes everything down and counts. -/
def observing : ClientOptions :=
  { ClientOptions.default with
    endpoint := "http://[::1]", isTranscribed := true, isInstrumented := true }

/-- The client that is told so. -/
def observer : Client :=
  { client with retry := .default, isTranscribed := true, isInstrumented := true }

/-- Waits for an action, counting its snapshots, and then gets another one. -/
def countThenGet : Program :=
  .call (.waitReporting 2 .unbounded (fun n _ => .ok (n + 1)) 0 [snapshot 1 .running]) fun _ =>
    .call (.action .unbounded 2) fun _ => .stop

/-- A session in which the first round trip fails, and the last one too. -/
def roughSession : Session :=
  session [.refused .timedOut, listing [snapshot 1 .success], .refused .noHost]

/-- A client that has room for ten bytes only, and counts what it gets, is seen to do what it does
without that, at the same moments. -/
theorem results_quiet_observer :
    (countThenGet.results observer.quiet roughSession).2.trips = 3 ∧
      (countThenGet.results observer { roughSession with
        transcript := .empty (some 10), metrics := .empty }).2.transcript.written.length = 10 ∧
      (countThenGet.results observer { roughSession with
        transcript := .empty (some 10), metrics := .empty }).2.metrics ≠ .empty ∧
      (countThenGet.results observer { roughSession with
        transcript := .empty (some 10), metrics := .empty }).1 =
          (countThenGet.results observer.quiet roughSession).1 := by
  have hbuild : Client.build observing .empty = (.done observer, ⟨Collector.shared⟩) := rfl
  obtain ⟨-, -, hresults⟩ := Client.results_quiet hbuild .empty
  refine ⟨by decide +kernel, by decide +kernel, by decide +kernel, ?_⟩
  exact (hresults countThenGet roughSession (.empty (some 10)) .empty).1

end Loopback

end CloudClient
