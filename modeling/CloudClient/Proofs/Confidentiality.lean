import CloudClient.Proofs.Correspondence
import CloudClient.Proofs.Credentials
import CloudClient.Proofs.Loopback

/-!
# Credentials are not written down

The same program is run twice, by two clients with different credentials and over the same network.
The two runs can not be told apart by what is written down, nor by anything else that a program gets
to know: they differ only in the requests that were sent.

* `Session.SameButLog` — two sessions that differ in what was noted alone. From such sessions, the
  steps of the two runs end alike, and leave such sessions.
* `Client.SameButCredentials.corresponds` — so do the attempts of the two clients, and with them all
  that these do.
* `Program.SameButCredentials` — two programs that differ in the credentials of requests alone.
* `Client.run_transcript_eq` — so what is written down of two programs is the same if their requests
  differ in the credentials alone.
-/

namespace CloudClient

open Transcript (credentials)
open CloudClient.Task (Relates)

/-! ## Two runs -/

/-- Does the network take no notice of the credentials of requests? One that follows a script takes
no notice of anything. -/
def Network.IgnoresCredentials (n : Network) : Prop :=
  ∀ trips r r', Request.SameButCredentials r r' → n trips r = n trips r'

/-- The second session is the first one, but for what was noted. -/
structure Session.SameButLog (s s' : Session) : Prop where
  blind : s.surroundings.network.IgnoresCredentials
  others : s' = { s with log := s'.log }

variable {α : Type}

namespace Session.SameButLog

/-! ### Steps -/

/-- Both note something. -/
theorem note (event event' : Event) :
    Relates SameButLog (Session.note event) (Session.note event') := by
  refine .update fun s s' hs => ?_
  obtain ⟨hblind, hothers⟩ := hs
  refine ⟨hblind, ?_⟩
  rw [hothers]
  rfl

/-- A change that has nothing to do with what was noted. -/
theorem update {f : Session → Session} (hf : ∀ s : Session, (f s).surroundings = s.surroundings)
    (hlog : ∀ (s : Session) log, f { s with log } = { f s with log }) :
    Relates SameButLog (Task.update f) (Task.update f) := by
  refine .update fun s s' hs => ?_
  obtain ⟨hblind, hothers⟩ := hs
  refine ⟨?_, ?_⟩
  · rwa [hf]
  · rw [hothers, hlog]

theorem wait (l : Lifetime) (millis : Nat) :
    Relates SameButLog (Session.wait l millis) (Session.wait l millis) := by
  refine .wait (fun s s' hs => ?_) (fun s s' moment hs => ?_) l millis
  · rw [hs.others]
  · obtain ⟨hblind, hothers⟩ := hs
    exact ⟨hblind, by rw [hothers]⟩

theorem pause (l : Lifetime) (b : Backoff) (attempt : Nat) :
    Relates SameButLog (Session.pause l b attempt) (Session.pause l b attempt) :=
  .pause (fun s s' hs => by rw [hs.others]) (wait l) b attempt

variable {r r' : Request}

/-- Two requests are sent, and bring the same. -/
theorem send (hr : r.SameButCredentials r') :
    Relates SameButLog (Session.send r) (Session.send r') := by
  intro s s' hs
  obtain ⟨hblind, hothers⟩ := hs
  have hbrings : s'.surroundings.network s'.trips r' = s.surroundings.network s.trips r := by
    rw [hothers]
    exact (hblind _ _ _ hr).symm
  refine ⟨congrArg Outcome.done hbrings, hblind, ?_⟩
  change { s'.noted (.sent r') with trips := s'.trips + 1 } = _
  rw [hothers]
  rfl

theorem transcribe (bytes : Bytes) :
    Relates SameButLog (Session.transcribe bytes) (Session.transcribe bytes) :=
  update (fun _ => rfl) fun _ _ => rfl

theorem observe (hr : r.SameButCredentials r') (status : Http.Status) :
    Relates SameButLog (Session.observe r status) (Session.observe r' status) := by
  have hsame : Session.observe r' status = Session.observe r status := by rw [hr.others]; rfl
  rw [hsame]
  exact update (fun _ => rfl) fun _ _ => rfl

theorem roundTrip (hr : r.SameButCredentials r') (timeout : Option Nat) :
    Relates SameButLog (Session.roundTrip timeout r) (Session.roundTrip timeout r') :=
  .roundTrip (by rw [hr.others]) (by rw [hr.others]) (wait r.lifetime) (send hr) timeout

end Session.SameButLog

/-! ## Two clients -/

namespace Client.SameButCredentials

open Session (SameButLog)

variable {c c' : Client} {r r' : Request}

/-- What is written down of the two requests is the same. -/
theorem attempt (hc : c.SameButCredentials c') (hr : r.SameButCredentials r') :
    Relates SameButLog (c.attempt r) (c'.attempt r') := by
  obtain ⟨c, v, v'⟩ := hc
  exact attempt_relates rfl rfl (Transcript.requestEntry_congr hr).symm
    (fun s s' hs => by rw [hs.others]; rfl) (SameButLog.roundTrip hr c.timeout)
    (SameButLog.observe hr) SameButLog.transcribe

/-- The clients do alike with requests that differ in their credentials alone. -/
theorem corresponds (hc : c.SameButCredentials c') :
    c.Corresponds SameButLog Request.SameButCredentials c' where
  retry := by cases hc; rfl
  pollBackoff := by cases hc; rfl
  lifetime hr := by rw [hr.others]
  parameters hr pairs := hr.map (·.withParameters pairs) fun _ _ => rfl
  request l method path body := by
    have hmade := hc.request l method path body
    generalize c.request l method path body = made at hmade ⊢
    generalize c'.request l method path body = made' at hmade ⊢
    cases hmade with
    | ok hr => exact .inr ⟨_, _, rfl, rfl, hr⟩
    | error e => exact .inl ⟨e, rfl, rfl⟩
  note _ := SameButLog.note _ _
  pause := SameButLog.pause
  attempt hr := hc.attempt hr

end Client.SameButCredentials

/-! ## Programs -/

/-- The calls, of one client and of the other, are the same but for the credentials of requests. -/
inductive Call.SameButCredentials (c c' : Client) : {α : Type} → Call α → Call α → Prop
  | execute {r r' : Request} (h : Request.Prepared c c' r r') :
      SameButCredentials c c' (.execute r) (.execute r')
  | executeJson {α : Type} (read : Json.Tree → Option α) {r r' : Request}
      (h : Request.Prepared c c' r r') :
      SameButCredentials c c' (.executeJson read r) (.executeJson read r')
  | same {α : Type} (op : Call α) : SameButCredentials c c' op op

/-- The programs are the same but for the credentials of requests. -/
inductive Program.SameButCredentials (c c' : Client) : Program → Program → Prop
  | stop : SameButCredentials c c' .stop .stop
  | call {α : Type} {op op' : Call α} {next next' : Outcome α → Program}
      (hop : op.SameButCredentials c c' op')
      (hnext : ∀ o, SameButCredentials c c' (next o) (next' o)) :
      SameButCredentials c c' (.call op next) (.call op' next')

section Programs

variable {c c' : Client}

/-- Calls that are the same but for the credentials of requests. -/
theorem Call.SameButCredentials.relates (hc : c.SameButCredentials c') {op op' : Call α}
    (h : op.SameButCredentials c c' op') :
    Relates Session.SameButLog (op.run c) (op'.run c') := by
  cases h with
  | execute h => exact hc.corresponds.execute (h.sameButCredentials hc)
  | executeJson read h => exact hc.corresponds.executeJson (h.sameButCredentials hc) read
  | same op => exact op.relates hc.corresponds .refl

/-- Programs that are the same but for the credentials of requests leave sessions that differ in
what was noted alone. -/
theorem Program.SameButCredentials.run (hc : c.SameButCredentials c') {p p' : Program}
    (h : p.SameButCredentials c c' p') {s s' : Session} (hs : s.SameButLog s') :
    (p.run c s).SameButLog (p'.run c' s') := by
  induction h generalizing s s' with
  | stop => exact hs
  | call hop hnext ih =>
    obtain ⟨ho, hsame⟩ := hop.relates hc s s' hs
    rw [Program.run, Program.run, ho]
    exact ih _ hsame

end Programs

/-- **Credentials are not written down.** Two clients are made from options that differ in the token
alone, and run the same program over the same network, but for the credentials that the program sets
in its requests. What they write down is the same, byte for byte. -/
theorem Client.run_transcript_eq {o : ClientOptions} {token : String}
    {registry registry' r₁ r₁' : Registry} {c c' : Client} {p p' : Program} {s : Session}
    (htoken : o.token ≠ "") (htoken' : token ≠ "")
    (hbuild : build o registry = (.done c, r₁))
    (hbuild' : build { o with token } registry' = (.done c', r₁'))
    (hp : p.SameButCredentials c c' p')
    (hnetwork : s.surroundings.network.IgnoresCredentials) :
    (p.run c s).transcript = (p'.run c' s).transcript := by
  have hc : c.SameButCredentials c' := sameButCredentials_of_build htoken htoken' hbuild hbuild'
  have hrun : (p.run c s).SameButLog (p'.run c' s) := hp.run hc ⟨hnetwork, rfl⟩
  rw [hrun.others]

namespace Loopback

/-- What a client is told that has this token and writes everything down. -/
def confiding (token : String) : ClientOptions :=
  { ClientOptions.default with endpoint := "http://[::1]", token, isTranscribed := true }

/-- The client that is told so. -/
def confidant (token : String) : Client :=
  { client with
    authorization := some (textBytes ("Bearer " ++ token))
    retry := .default
    isTranscribed := true }

/-- Lists all actions, and then sends a request. -/
def listThenSend (r : Request) : Program :=
  .call (.allActions 2 .unbounded .all) fun _ => .call (.execute r) fun _ => .stop

/-- A session in which the first round trip fails. -/
def flakySession : Session :=
  session [.refused .timedOut, listing [snapshot 1 .running], answer (.object [])]

/-- Two clients list actions, at the second attempt, and send a request, for which one of them sets
the credentials anew. Nothing of this is to be seen in what they write down. -/
theorem run_transcript_eq_flaky :
    ∃ r₀ r r' : Request,
      (confidant "s3cret").request .unbounded "DELETE" "/actions/1" none = .ok r₀ ∧
      r₀.withHeader "Authorization" "Basic aGk=" = .ok r ∧
      (confidant "0ther").request .unbounded "DELETE" "/actions/1" none = .ok r' ∧
      r.headers ≠ r'.headers ∧
      ((listThenSend r).run (confidant "s3cret") flakySession).trips = 3 ∧
      ((listThenSend r).run (confidant "s3cret") flakySession).transcript.written ≠ [] ∧
      ((listThenSend r).run (confidant "s3cret") flakySession).transcript =
        ((listThenSend r').run (confidant "0ther") flakySession).transcript := by
  obtain ⟨r₀, hr₀, r, hr, r', hr', hpresent, hne, htrips, hwritten⟩ : ∃ r₀,
      (confidant "s3cret").request .unbounded "DELETE" "/actions/1" none = .ok r₀ ∧
        ∃ r, r₀.withHeader "Authorization" "Basic aGk=" = .ok r ∧
        ∃ r', (confidant "0ther").request .unbounded "DELETE" "/actions/1" none = .ok r' ∧
        r'.headers.contains credentials = true ∧ r.headers ≠ r'.headers ∧
        ((listThenSend r).run (confidant "s3cret") flakySession).trips = 3 ∧
        ((listThenSend r).run (confidant "s3cret") flakySession).transcript.written ≠ [] :=
    ⟨_, rfl, _, rfl, _, rfl, by decide +kernel, by decide +kernel, by decide +kernel,
      by decide +kernel⟩
  have hrequest : Request.Prepared (confidant "s3cret") (confidant "0ther") r r' :=
    .first (.request hr₀ hr') hpresent (by decide +kernel) hr
  have hbuild : Client.build (confiding "s3cret") .empty =
    (.done (confidant "s3cret"), .empty) := rfl
  have hbuild' : Client.build { confiding "s3cret" with token := "0ther" } .empty =
    (.done (confidant "0ther"), .empty) := rfl
  refine ⟨r₀, r, r', hr₀, hr, hr', hne, htrips, hwritten, ?_⟩
  exact Client.run_transcript_eq (by decide) (by decide) hbuild hbuild'
    (.call (.same _) fun _ => .call (.execute hrequest) fun _ => .stop) fun _ _ _ _ => rfl

end Loopback

end CloudClient
