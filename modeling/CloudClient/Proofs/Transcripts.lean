import CloudClient.Proofs.Correspondence
import CloudClient.Proofs.HandingOn

/-!
# What is written down

A client with a transcript writes down what it sends and what it gets. Several layers lie between
the round trip and the transcript, and they hand on an answer, an error that has the answer
attached, or an error without one. Still the transcript tells what has come over the network: of
each attempt there is the entry of the request, and one of an answer just if the whole of it has
come.

* `Transcript.requestEntry_eq` and `Transcript.responseEntry_eq` — an entry is an HTTP message: its
  lines, an empty one, and the body.
* `Transcript.values_redacted` — the entry of a request hides the credentials and nothing else.
* `Session.HasTranscript` — the same session with another transcript: round trips and pauses neither
  look at the transcript nor change it.
* `Client.Conveys` — what becomes of the answer of an attempt, which is told from the network alone;
  and `Client.attempt_transcript`, what the attempt writes down.
* `Client.Recorded` — the invariant: what attempts have left in the session. It is kept by an
  attempt, its judgement and the pause after it, and so by all of them, by induction on the attempts
  left (`Client.enteredFrom_recorded`).
* `Client.execute_transcribes` — so the transcript of a request is that of its attempts in turn.
-/

namespace CloudClient

open CloudClient.Task (Relates)

/-! ## Writing -/

namespace Transcript

@[simp] theorem write_nil (t : Transcript) : t.write [] = t := by
  obtain ⟨written, _ | room⟩ := t <;> simp [write]

/-- **What is written in two steps** is written in one. -/
theorem write_write (a b : Bytes) (t : Transcript) : (t.write a).write b = t.write (a ++ b) := by
  obtain ⟨written, _ | room⟩ := t
  · simp [write]
  · simp [write, List.take_append, Nat.sub_sub]

theorem written_write {t : Transcript} (h : t.room = none) (bytes : Bytes) :
    (t.write bytes).written = t.written ++ bytes := by
  rw [write, h]

/-! ## Entries -/

/-- The text of an HTTP message: its lines, an empty one, and the body. -/
def message (lines : List String) (body : String) : String :=
  "\r\n".intercalate (lines ++ ["", body])

/-- The line of a header field. -/
def fieldLine (f : Http.HeaderName × Http.HeaderValue) : String := f.1 ++ ": " ++ lossyText f.2

theorem message_nil (body : String) : message [] body = "\r\n" ++ body := by
  rw [message, List.nil_append, String.intercalate_cons_of_ne_nil (List.cons_ne_nil _ _),
    String.intercalate_singleton, String.empty_append]

theorem message_cons (line : String) (lines : List String) (body : String) :
    message (line :: lines) body = line ++ "\r\n" ++ message lines body :=
  String.intercalate_cons_of_ne_nil (by simp)

theorem message_toList (line? : Option String) (lines : List String) (body : String) :
    message (line?.toList ++ lines) body =
      (line?.map (· ++ "\r\n")).getD "" ++ message lines body := by
  cases line? with
  | none => exact String.empty_append.symm
  | some line => exact message_cons line lines body

theorem message_fields (h : Http.Headers) (body : String) :
    message (h.toList.map fieldLine) body = headerLines h ++ ("\r\n" ++ body) := by
  rw [headerLines]
  induction h.toList with
  | nil => rw [List.map_nil, List.map_nil, message_nil, String.join_nil, String.empty_append]
  | cons f rest ih =>
    rw [List.map_cons, message_cons, ih, List.map_cons, String.join_cons]
    simp only [fieldLine, lineEnd, String.append_assoc]

/-- The lines of a request: its method, path and query, its host, and its header fields but for the
credentials. -/
def requestLines (r : Request) : List String :=
  (r.method ++ " " ++ r.url.pathText ++ (r.url.query.map ("?" ++ ·)).getD "" ++ " HTTP/1.1") ::
    ((r.url.hostText?.map ("Host: " ++ ·)).toList ++ (redacted r.headers).toList.map fieldLine)

/-- The lines of an answer: its status and its header fields. -/
def responseLines (r : Response) : List String :=
  ("HTTP/1.1 " ++ r.status.text) :: r.headers.toList.map fieldLine

/-- **The entry of a request** is the message with its lines and its body. -/
theorem requestEntry_eq (r : Request) : requestEntry r = textBytes
    ("--- Request:\n" ++ message (requestLines r) ((r.body.map lossyText).getD "") ++ "\n\n") := by
  rw [requestEntry, entry, requestText, requestLines, message_cons, message_toList, message_fields,
    Option.map_map]
  simp only [Url.target, lineEnd, String.append_assoc, Function.comp_def]
  rfl

/-- **The entry of an answer** is the message with its lines and its body. -/
theorem responseEntry_eq (r : Response) : responseEntry r = textBytes
    ("--- Response:\n" ++ message (responseLines r) (lossyText r.body) ++ "\n\n") := by
  rw [responseEntry, entry, responseText, responseLines, message_cons, message_fields]
  simp only [lineEnd, Response.text, String.append_assoc]
  rfl

/-! ## Credentials -/

variable (h : Http.Headers)

/-- The names of the fields are written down in their order. -/
theorem names_redacted : (redacted h).fields.map (·.1) = h.fields.map (·.1) := by
  obtain ⟨fields⟩ := h
  rw [redacted]
  split
  · rename_i hany
    change (Http.Headers.alter credentials _ fields).map (·.1) = fields.map (·.1)
    replace hany : fields.any (·.1 == credentials) = true := hany
    induction fields with
    | nil => cases hany
    | cons f rest ih =>
      rw [Http.Headers.alter]
      split
      · rfl
      · rename_i hf
        rw [List.map_cons, List.map_cons, ih (by simpa [hf] using hany)]
  · rfl

/-- **The credentials are hidden**, if there are any, and all other fields are written down with
their values. -/
theorem values_redacted (name : Http.HeaderName) :
    (redacted h).values name =
      if name = credentials ∧ h.contains credentials = true then [textBytes "REDACTED"]
      else h.values name := by
  by_cases hany : h.contains credentials = true
  · rw [redacted, if_pos hany]
    by_cases hname : name = credentials
    · rw [if_pos ⟨hname, hany⟩, hname, Http.Headers.values_insert]
    · rw [if_neg fun h => hname h.1]
      obtain ⟨fields⟩ := h
      simp only [Http.Headers.values, Http.Headers.insert]
      clear hany
      induction fields with
      | nil => simp [Http.Headers.alter, Ne.symm hname]
      | cons f rest ih =>
        rw [Http.Headers.alter]
        split
        · rename_i hf
          simp [hf, Ne.symm hname]
        · by_cases hsame : f.1 = name
          · simp [hsame]
          · simpa [hsame] using ih
  · rw [redacted, if_neg hany, if_neg fun h => hany h.2]

end Transcript

/-! ## Sessions with other transcripts -/

/-- The second session is the first one with this transcript in place of its own. -/
def Session.HasTranscript (transcript : Transcript) (s s' : Session) : Prop :=
  s' = { s with transcript }

namespace Session.HasTranscript

variable {α : Type} {transcript : Transcript}

theorem wait (l : Lifetime) (millis : Nat) :
    Relates (HasTranscript transcript) (Session.wait l millis) (Session.wait l millis) :=
  .wait (fun s s' hs => by rw [hs]) (fun s s' moment hs => by rw [hs]; rfl) l millis

theorem pause (l : Lifetime) (b : Backoff) (attempt : Nat) :
    Relates (HasTranscript transcript) (Session.pause l b attempt) (Session.pause l b attempt) :=
  .pause (fun s s' hs => by rw [hs]) (wait l) b attempt

theorem send (r : Request) :
    Relates (HasTranscript transcript) (Session.send r) (Session.send r) := by
  intro s s' hs
  rw [hs]
  exact ⟨rfl, rfl⟩

theorem observe (r : Request) (status : Http.Status) :
    Relates (HasTranscript transcript) (Session.observe r status) (Session.observe r status) :=
  .update fun s s' hs => by rw [hs]; rfl

theorem roundTrip (timeout : Option Nat) (r : Request) :
    Relates (HasTranscript transcript) (Session.roundTrip timeout r)
      (Session.roundTrip timeout r) :=
  .roundTrip rfl rfl (wait r.lifetime) (send r) timeout

theorem judgedTrip (c : Client) (r : Request) :
    Relates (HasTranscript transcript) (c.judgedTrip r) (c.judgedTrip r) :=
  (Client.countedTrip_relates rfl (roundTrip c.timeout r) (observe r)).bind fun response =>
    .state_bind (g := Session.timeOfDay)
      (f := fun now => Task.ofExcept (response.limited now).verdict)
      (fun s s' hs => by rw [hs]; rfl) fun _ => .ofExcept _

/-- A task that does the same whatever the transcript is leaves it as it is. -/
theorem transcript_eq {t : Task Session α}
    (h : ∀ transcript, Relates (HasTranscript transcript) t t)
    (s : Session) : (t s).2.transcript = s.transcript := by
  have hsame : (t s).2 = { (t s).2 with transcript := s.transcript } := (h s.transcript s s rfl).2
  rw [hsame]

end Session.HasTranscript

/-! ## One attempt -/

namespace Session

instance (r : Request) (s : Session) : Decidable (s.CanSend r) :=
  inferInstanceAs (Decidable (_ ∧ _))

/-- The round trip that an attempt starts, if it starts one. -/
def trip? (r : Request) (s : Session) : Option Trip := if s.CanSend r then some (s.trip r) else none

theorem Makes.pause (l : Lifetime) (b : Backoff) (attempt : Nat) (s : Session) :
    Makes [] s (Session.pause l b attempt s).2 := by
  obtain ⟨millis, hwait⟩ := exists_wait_eq_pause l b attempt s
  rw [hwait]
  rcases s.wait_cases l millis with ⟨-, h⟩ | ⟨-, moment, e, hle, -, h⟩
  · rw [h]
    exact .elapsed millis s
  · rw [h]
    exact .moved hle

theorem Judged.makes {s s' : Session} (h : s.Judged s') : Makes [] s s' := by
  rcases h with rfl | ⟨e, attempt, rfl⟩
  · exact .nothing rfl rfl rfl rfl
  · exact .noted (by rfl) s

theorem Judged.transcript_eq {s s' : Session} (h : s.Judged s') :
    s'.transcript = s.transcript := by
  rcases h with rfl | ⟨e, attempt, rfl⟩ <;> rfl

end Session

/-- The answer that is handed on or attached to an error. -/
def answerOf? : Except Error Response → Option Response
  | .ok response => some response
  | .error e => e.response?

/-- What carries an answer is written down as the answer. -/
theorem Response.Carries.responseEntry_eq {r raw : Response} {time : Nat}
    (h : r.Carries time raw) : Transcript.responseEntry r = Transcript.responseEntry raw := by
  rw [Transcript.responseEntry, Transcript.responseEntry, Transcript.responseText,
    Transcript.responseText, Response.text, Response.text, h.status_eq, h.headers_eq, h.body_eq]

namespace Client

open Session (Sending Makes HasTranscript)
open Transcript (credentials message redacted requestEntry requestLines responseEntry responseLines)

variable (c : Client) (r : Request) (s : Session)

/-- The whole answer that an attempt gets which starts in this state: what its round trip brings
while the lifetime of the request goes on. -/
def answer? : Option Response :=
  (s.trip? r).bind (·.received? s.surroundings.network c.timeout)

/-- What becomes of the whole answer, if there is one. -/
inductive Conveys : Except Error Response → Prop
  /-- it is handed on -/
  | answer {raw response : Response} {time : Nat} (h : c.answer? r s = some raw)
      (hcarries : response.Carries time raw) : Conveys (.ok response)
  /-- it is an error, and attached to it -/
  | refusal {raw response : Response} {time : Nat} {e : Error} (h : c.answer? r s = some raw)
      (hresponse : e.response? = some response) (hcarries : response.Carries time raw) :
      Conveys (.error e)
  /-- there is none -/
  | silence {e : Error} (h : c.answer? r s = none) (hbreak : e.IsBreak) : Conveys (.error e)

/-- What the network makes of an attempt that starts in this state: the entry of the request, and
the one of the answer if the whole of it comes. -/
def attemptEntries : Bytes := requestEntry r ++ ((c.answer? r s).map responseEntry).getD []

/-- **What is written down after a round trip** is the entry of the answer that it hands on. -/
theorem transcribeOutcome_apply (outcome : Except Error Response) :
    transcribeOutcome outcome s = (.done (),
      { s with transcript := s.transcript.write (((answerOf? outcome).map responseEntry).getD []) })
      := by
  have hwrite : ∀ bytes, Session.transcribe bytes s =
      (.done (), { s with transcript := s.transcript.write bytes }) := fun _ => rfl
  cases outcome with
  | ok response =>
    rw [transcribeOutcome, answerOf?, hwrite, Option.map_some, Option.getD_some]
  | error e =>
    rw [transcribeOutcome, answerOf?]
    cases e.response? with
    | none =>
      rw [Option.map_none, Option.getD_none, Transcript.write_nil]
      rfl
    | some response =>
      rw [Option.map_some, Option.getD_some]
      exact hwrite _

variable {c r s}

/-- The entry of what is handed on is the one of the answer that has come. -/
theorem Conveys.entry_eq {outcome : Except Error Response} (h : c.Conveys r s outcome) :
    (answerOf? outcome).map responseEntry = (c.answer? r s).map responseEntry := by
  cases h with
  | answer h hcarries =>
    rw [h, answerOf?, Option.map_some, Option.map_some, hcarries.responseEntry_eq]
  | refusal h hresponse hcarries =>
    rw [h, answerOf?, hresponse, Option.map_some, Option.map_some, hcarries.responseEntry_eq]
  | silence h hbreak =>
    rw [h, answerOf?]
    cases hbreak <;> rfl

/-- **Inversion for the sending of a request** by what it conveys. -/
theorem conveys_of_sending {count : Response → Metrics → Metrics}
    {ends : Outcome Response × Session}
    (h : Sending c.timeout r s ((s.trip r).verdict c.timeout s.surroundings) count ends) :
    ∃ outcome s', ends = Task.ofExcept outcome s' ∧ c.Conveys r s outcome ∧
      Makes (s.trip? r).toList s s' := by
  rcases h with ⟨hsend, herror, hmakes, -⟩ | ⟨hsend, hlost, herror, hmakes, -⟩ |
    ⟨hsend, hreceived, hmakes, -, -⟩
  · have htrip : s.trip? r = none := if_neg hsend
    rw [htrip]
    refine ⟨_, _, rfl, .silence ?_ herror.isBreak, hmakes⟩
    rw [answer?, htrip, Option.bind_none]
  · have htrip : s.trip? r = some (s.trip r) := if_pos hsend
    rw [htrip]
    refine ⟨_, _, rfl, .silence ?_ herror.isBreak, hmakes⟩
    rw [answer?, htrip, Option.bind_some, hlost]
  · rename_i raw s'
    have htrip : s.trip? r = some (s.trip r) := if_pos hsend
    have hanswer : c.answer? r s = some raw := by rw [answer?, htrip, Option.bind_some, hreceived]
    rw [htrip]
    refine ⟨_, s', rfl, ?_, hmakes⟩
    rcases (s.trip r).verdict_inv c.timeout s.surroundings raw with ⟨-, hverdict⟩ | ⟨-, hverdict⟩
    · rw [hverdict]
      exact .answer hanswer (raw.carries_limited _)
    · rw [hverdict]
      exact .refusal hanswer (Response.error_inv _).1 (raw.carries_limited _)

variable (c r s) in
/-- **An attempt conveys the whole answer** that it gets, or breaks off. -/
theorem attempt_conveys : ∃ outcome s', c.attempt r s = Task.ofExcept outcome s' ∧
    c.Conveys r s outcome ∧ Makes (s.trip? r).toList s s' :=
  conveys_of_sending (c.attempt_sending r s)

theorem ofExcept_snd (outcome : Except Error Response) (s : Session) :
    (Task.ofExcept outcome s).2 = s := by
  cases outcome <;> rfl

/-- **What an attempt writes down** is what the network makes of it. -/
theorem attempt_transcript (hc : c.isTranscribed = true) :
    (c.attempt r s).2.transcript = s.transcript.write (c.attemptEntries r s) := by
  rw [attempt, if_pos hc]
  -- the request is written down first
  let s₁ : Session := { s with transcript := s.transcript.write (requestEntry r) }
  have hfirst : Session.transcribe (requestEntry r) s = (.done (), s₁) := rfl
  -- then comes the round trip, which leaves the transcript as it is
  obtain ⟨outcome, s₂, hends, hconveys, -⟩ := conveys_of_sending (c.judgedTrip_sending r s₁)
  have hkept : (c.judgedTrip r s₁).2.transcript = s.transcript.write (requestEntry r) :=
    HasTranscript.transcript_eq (fun _ => HasTranscript.judgedTrip c r) s₁
  rw [hends, ofExcept_snd] at hkept
  -- and at last what it hands on
  rw [Task.bind_done hfirst, Task.bind_done (Task.attempt_ofExcept hends),
    Task.bind_done (transcribeOutcome_apply s₂ outcome), ofExcept_snd, hconveys.entry_eq]
  change s₂.transcript.write _ = _
  rw [hkept, Transcript.write_write]
  rfl

/-! ## All attempts -/

section Attempts

variable (c : Client) (r : Request) (s : Session)

/-- The states in which the attempts of a ledger have started. -/
def startsOf (es : Ledger Session RetryCall) : List Session :=
  es.filterMap fun e =>
    match e.call with
    | .send _ _ => some e.before
    | .pause _ _ => none

theorem startsOf_send (es : Ledger Session RetryCall) (outcome : Outcome Response)
    (before after : Session) :
    startsOf (es ++ [⟨.send r outcome, before, after⟩]) = startsOf es ++ [before] :=
  List.filterMap_append

theorem startsOf_pause (es : Ledger Session RetryCall) (attempt : Nat) (ended : Outcome Unit)
    (before after : Session) :
    startsOf (es ++ [⟨.pause attempt ended, before, after⟩]) = startsOf es := by
  rw [startsOf, List.filterMap_append]
  exact List.append_nil _

/-- The states in which the attempts of a client start, one after the other. -/
def attemptStarts : List Session := startsOf (c.attemptLedger c.attempt r s)

/-- Since `s` attempts have started in these states, and what the session has of them is what the
network makes of them. -/
structure Recorded (starts : List Session) (s' : Session) : Prop where
  /-- what is written down -/
  transcript_eq : s'.transcript = s.transcript.write (starts.flatMap (c.attemptEntries r))
  /-- the round trips that were started -/
  makes : s.Makes (starts.filterMap (·.trip? r)) s'

variable {c r s} {starts : List Session} {s' s'' : Session}

theorem recorded_nil : c.Recorded r s [] s := by
  refine ⟨?_, .nothing rfl rfl rfl rfl⟩
  rw [List.flatMap_nil, Transcript.write_nil]

/-- **An attempt keeps the invariant.** -/
theorem Recorded.attempt (h : c.Recorded r s starts s') (hc : c.isTranscribed = true) :
    c.Recorded r s (starts ++ [s']) (c.attempt r s').2 := by
  obtain ⟨outcome, after, hends, -, hmakes⟩ := c.attempt_conveys r s'
  refine ⟨?_, ?_⟩
  · rw [attempt_transcript hc, h.transcript_eq, Transcript.write_write, List.flatMap_append,
      List.flatMap_singleton]
  · have htrip : [s'].filterMap (·.trip? r) = (s'.trip? r).toList := by
      cases h : s'.trip? r <;> simp [h]
    rw [hends, ofExcept_snd, List.filterMap_append, htrip]
    exact h.makes.trans hmakes

/-- So does what neither writes anything nor starts a round trip. -/
theorem Recorded.trans_nothing (h : c.Recorded r s starts s')
    (htranscript : s''.transcript = s'.transcript) (hmakes : s'.Makes [] s'') :
    c.Recorded r s starts s'' :=
  ⟨htranscript.trans h.transcript_eq, h.makes.trans_nothing hmakes⟩

theorem Recorded.judged (h : c.Recorded r s starts s') (hjudged : s'.Judged s'') :
    c.Recorded r s starts s'' :=
  h.trans_nothing hjudged.transcript_eq hjudged.makes

/-- **A pause keeps the invariant.** -/
theorem Recorded.pause (h : c.Recorded r s starts s') (attempt : Nat) :
    c.Recorded r s starts (Session.pause r.lifetime c.retry.backoff attempt s').2 :=
  h.trans_nothing (HasTranscript.transcript_eq (fun _ => HasTranscript.pause _ _ attempt) s')
    (.pause _ _ attempt s')

/-- **All attempts are recorded**, and the next one starts at once. -/
theorem enteredFrom_recorded (hc : c.isTranscribed = true) {left attempt : Nat}
    {es es' : Ledger Session RetryCall} {o : Outcome Response}
    (h : c.Recorded r s (startsOf es) s')
    (hrun : c.enteredFrom c.attempt r left attempt (s', es) = (o, s'', es')) :
    (∃ more, startsOf es' = startsOf es ++ s' :: more) ∧ c.Recorded r s (startsOf es') s'' := by
  -- by the attempts left; `Recorded` is kept by each attempt, its judgement and the pause after it
  induction left generalizing attempt s' es with
  | zero =>
    have hsent := h.attempt hc
    rcases tryOnce_inv _ hrun with ⟨e, s₁, -, -, hjudged, hnext⟩ | ⟨-, -, hjudged, rfl⟩
    · rw [Task.fail_apply, Prod.mk.injEq, Prod.mk.injEq] at hnext
      obtain ⟨-, rfl, rfl⟩ := hnext
      rw [startsOf_send]
      exact ⟨⟨[], rfl⟩, hsent.judged hjudged⟩
    · rw [startsOf_send]
      exact ⟨⟨[], rfl⟩, hsent.judged hjudged⟩
  | succ left ih =>
    have hsent := h.attempt hc
    rcases tryOnce_inv _ hrun with ⟨e, s₁, -, -, hjudged, hnext⟩ | ⟨-, -, hjudged, rfl⟩
    · have hpaused := (hsent.judged hjudged).pause attempt
      rcases Task.entered_bind_inv hnext with ⟨_, s₂, hpause, hnext⟩ | ⟨o', -, -, heq⟩
      · rw [hpause] at hpaused
        obtain ⟨⟨more, hmore⟩, hrecorded⟩ := ih (by rwa [startsOf_pause, startsOf_send]) hnext
        rw [startsOf_pause, startsOf_send, List.append_assoc] at hmore
        exact ⟨⟨s₂ :: more, hmore⟩, hrecorded⟩
      · -- the lifetime has ended the pause
        rw [Prod.mk.injEq, Prod.mk.injEq] at heq
        obtain ⟨-, rfl, rfl⟩ := heq
        rw [startsOf_pause, startsOf_send]
        exact ⟨⟨[], rfl⟩, hpaused⟩
    · rw [startsOf_send]
      exact ⟨⟨[], rfl⟩, hsent.judged hjudged⟩

variable (c r s) in
/-- **What is written down of a request.** The transcript grows by the entries of its attempts in
turn: each has the one of the request, and the one of an answer just if the whole of it has come.
This answer is then handed on or attached to an error, whatever its status; an attempt without one
has broken off. The entry of a request tells its method, path and query, its host, its header fields
and its body, and hides the credentials and nothing else; the one of an answer tells its status, its
header fields and its body. -/
theorem execute_transcribes (hc : c.isTranscribed = true) :
    (∃ more, c.attemptStarts r s = s :: more) ∧
      s.startedBetween (c.execute r s).2 = (c.attemptStarts r s).filterMap (·.trip? r) ∧
      (∀ start ∈ c.attemptStarts r s, ∃ outcome after,
        c.attempt r start = Task.ofExcept outcome after ∧ c.Conveys r start outcome) ∧
      (c.execute r s).2.transcript = s.transcript.write ((c.attemptStarts r s).flatMap fun start =>
        requestEntry r ++ ((c.answer? r start).map responseEntry).getD []) ∧
      (s.transcript.room = none → (c.execute r s).2.transcript.written =
        s.transcript.written ++ (c.attemptStarts r s).flatMap fun start =>
          requestEntry r ++ ((c.answer? r start).map responseEntry).getD []) ∧
      requestEntry r = textBytes ("--- Request:\n" ++
        message (requestLines r) ((r.body.map lossyText).getD "") ++ "\n\n") ∧
      (∀ answer : Response, responseEntry answer = textBytes ("--- Response:\n" ++
        message (responseLines answer) (lossyText answer.body) ++ "\n\n")) ∧
      (redacted r.headers).fields.map (·.1) = r.headers.fields.map (·.1) ∧
      ∀ name, (redacted r.headers).values name =
        if name = credentials ∧ r.headers.contains credentials = true then [textBytes "REDACTED"]
        else r.headers.values name := by
  rcases hrun : c.enteredFrom c.attempt r c.retry.limit 0 (s, []) with ⟨o, s', es⟩
  obtain ⟨-, hstate⟩ := c.mirrors_enteredFrom c.attempt r c.retry.limit 0 s []
  rw [hrun] at hstate
  have hwhole : (c.execute r s).2 = s' := (execute_snd c r s).trans hstate.symm
  have hstarts : c.attemptStarts r s = startsOf es := by rw [attemptStarts, attemptLedger, hrun]
  obtain ⟨hfirst, hrecorded⟩ := enteredFrom_recorded hc recorded_nil hrun
  rw [hwhole, hstarts]
  refine ⟨hfirst, hrecorded.makes.startedBetween_eq, ?_, hrecorded.transcript_eq, ?_,
    Transcript.requestEntry_eq r, Transcript.responseEntry_eq, Transcript.names_redacted _,
    Transcript.values_redacted _⟩
  · intro start _
    obtain ⟨outcome, after, hends, hconveys, -⟩ := c.attempt_conveys r start
    exact ⟨outcome, after, hends, hconveys⟩
  · intro hroom
    rw [hrecorded.transcript_eq, Transcript.written_write hroom]
    rfl

end Attempts

end Client

namespace Loopback

open Transcript (requestEntry responseEntry)

/-- The client that retries when it writes down what it sends and gets. -/
def recorder : Client := { patient with isTranscribed := true }

/-- A request with credentials, a query and a body. -/
def placing : Request :=
  { frontPage with
    method := "POST"
    url := { frontPage.url with path := .segments ["servers"], query := some "zone=fsn1" }
    headers := .ofList
      [("authorization", textBytes "Bearer secret"), ("content-type", Client.jsonType)]
    body := some (Json.Value.string "web").bytes }

/-- A session in which the server does not answer at first, then is busy, and then greets. -/
def slowBusySession : Session :=
  session [⟨0, .failure .timedOut⟩, busyAnswer,
    ⟨0, .head ⟨200⟩ greetingFields 0 (.ok (textBytes "hello"))⟩]

/-- What is written down of the request. -/
def placed : String :=
  "--- Request:\nPOST /servers?zone=fsn1 HTTP/1.1\r\nHost: [::1]\r\n" ++
    "authorization: REDACTED\r\ncontent-type: application/json\r\n\r\n\"web\"\n\n"

/-- What is written down of the answer of the busy server. -/
def turnedAway : String :=
  "--- Response:\nHTTP/1.1 409 Conflict\r\ncontent-type: application/json\r\n\r\n" ++
    "\x7b\"error\":\x7b\"code\":\"conflict\"\x7d\x7d\n\n"

/-- What is written down of the greeting. -/
def greeted : String :=
  "--- Response:\nHTTP/1.1 200 OK\r\nvia: a\r\nvia: b\r\nratelimit-limit: 3600\r\n\r\n" ++
    "hello\n\n"

/-- The request is written down three times, and so are both answers that come. -/
theorem execute_transcribes_recorder :
    recorder.isTranscribed = true ∧ slowBusySession.transcript.room = none ∧
      (recorder.execute placing slowBusySession).2.transcript.written =
        textBytes placed ++ textBytes placed ++ textBytes turnedAway ++ textBytes placed ++
          textBytes greeted := by
  let conflict : Response := .received ⟨409⟩ (.ofList [("content-type", Client.jsonType)])
    (Json.Value.object [("error", .object [("code", .string "conflict")])]).bytes
  let greeting : Response := .received ⟨200⟩ greetingFields (textBytes "hello")
  have hanswers : (recorder.attemptStarts placing slowBusySession).map
      (recorder.answer? placing) = [none, some conflict, some greeting] := by decide +kernel
  obtain ⟨-, -, -, -, hwritten, hrequest, hresponse, -⟩ :=
    recorder.execute_transcribes placing slowBusySession rfl
  have hplaced : requestEntry placing = textBytes placed :=
    hrequest.trans (congrArg textBytes (by decide +kernel))
  have hconflict : responseEntry conflict = textBytes turnedAway :=
    (hresponse conflict).trans (congrArg textBytes (by decide +kernel))
  have hgreeting : responseEntry greeting = textBytes greeted :=
    (hresponse greeting).trans (congrArg textBytes (by decide +kernel))
  have hentries : [none, some conflict, some greeting].flatMap (fun answer =>
      requestEntry placing ++ (answer.map responseEntry).getD []) =
      textBytes placed ++ textBytes placed ++ textBytes turnedAway ++ textBytes placed ++
        textBytes greeted := by
    rw [hplaced, List.flatMap_cons, List.flatMap_cons, List.flatMap_cons, List.flatMap_nil,
      Option.map_none, Option.map_some, Option.map_some, Option.getD_none, Option.getD_some,
      Option.getD_some, hconflict, hgreeting]
    simp only [List.append_nil, List.append_assoc]
  have hempty : slowBusySession.transcript.written = [] := rfl
  refine ⟨rfl, rfl, ?_⟩
  rw [hwritten rfl, hempty, List.nil_append, ← hentries, ← hanswers, List.flatMap_map]

end Loopback

end CloudClient
