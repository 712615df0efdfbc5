import CloudClient.Proofs.Shortening

/-!
# Round trips

What has become of a round trip? The log tells when it was started, and the network what it brings
and how long that takes; so it is known whether the whole answer has come before the lifetime of the
request was over, and when. Nothing that a client does with the answer plays a part in this.

* `Trip.received?` — the answer, if the whole of it has come.
* `Session.Makes` — which round trips have been started between two states of a session.
* `Session.Sending` — how it ends to send a request once: nothing is sent, or a round trip is
  started, and its answer is lost or received. Only a received answer is looked at, and only then
  something is counted.
* `Client.attempt_sending` — an attempt ends so; each layer around the round trip keeps this.
-/

namespace CloudClient

/-! ## Round trips -/

/-- What a round trip brings in the end: an answer, or a failure. -/
def Reply.result : Reply → Except NetworkError Response
  | .failure error => .error error
  | .head status headers _ body => body.map (.received status headers)

/-- A round trip that was started. -/
structure Trip where
  /-- how many were started before it -/
  number : Nat
  /-- when it was started -/
  started : Moment
  /-- the request that was sent -/
  request : Request

namespace Trip

variable (n : Network) (timeout : Option Nat) (t : Trip)

/-- What it brings to a client that may have a timeout. -/
def exchange : Exchange := (n t.number t.request).within timeout

/-- When nothing more comes. -/
def endsAt : Moment := t.started + (t.exchange n timeout).duration

/-- The answer, if the whole of it has come before the lifetime of the request was over. -/
def received? : Option Response :=
  if t.request.lifetime.ending? (t.endsAt n timeout) = none then
    (t.exchange n timeout).reply.result.toOption
  else none

/-- What time of day it is then. -/
def timeOfEnd (surroundings : Surroundings) : Nat :=
  surroundings.startTime + t.endsAt surroundings.network timeout / 1000

/-- The verdict on a whole answer that has come with it. -/
def verdict (surroundings : Surroundings) (raw : Response) : Except Error Response :=
  (raw.limited (t.timeOfEnd timeout surroundings)).verdict

variable {n timeout t}

theorem received?_of_ended (h : t.request.lifetime.ending? (t.endsAt n timeout) ≠ none) :
    t.received? n timeout = none := if_neg h

theorem result_of_received? {raw : Response} (h : t.received? n timeout = some raw) :
    (t.exchange n timeout).reply.result = .ok raw := by
  rw [received?] at h
  split at h
  · generalize (t.exchange n timeout).reply.result = result at h ⊢
    cases result with
    | ok response => exact congrArg Except.ok (Option.some.inj h)
    | error e => cases h
  · cases h

theorem received?_of_failure {e : NetworkError}
    (h : (t.exchange n timeout).reply.result = .error e) : t.received? n timeout = none := by
  rw [received?, h]
  exact ite_self none

end Trip

/-- The round trips that were started after so many others, with their numbers. -/
def numbered (n : Nat) (trips : List (Moment × Request)) : List Trip :=
  (trips.zipIdx n).map fun x => ⟨x.2, x.1.1, x.1.2⟩

theorem length_numbered (n : Nat) (trips : List (Moment × Request)) :
    (numbered n trips).length = trips.length := by
  rw [numbered, List.length_map, List.length_zipIdx]

theorem numbered_append (n : Nat) (trips trips' : List (Moment × Request)) :
    numbered n (trips ++ trips') = numbered n trips ++ numbered (n + trips.length) trips' := by
  rw [numbered, List.zipIdx_append, List.map_append]
  rfl

theorem requests_numbered (n : Nat) (noted : List (Moment × Event)) :
    (numbered n (tripsOf noted)).map (·.request) = noted.filterMap (·.2.request?) := by
  have hrequests : (tripsOf noted).map (·.2) = noted.filterMap (·.2.request?) := by
    rw [tripsOf, List.map_filterMap]
    congr 1
    funext entry
    obtain ⟨moment, event⟩ := entry
    cases event <;> rfl
  rw [← hrequests, numbered, List.map_map]
  conv_rhs => rw [← List.zipIdx_map_fst n (tripsOf noted), List.map_map]
  rfl

namespace Session

/-- The round trips that were started between two states of a session, with their numbers. -/
def startedBetween (before after : Session) : List Trip :=
  numbered before.trips (before.tripsBetween after)

/-- From one state to another the session has started these round trips in turn, and no others. -/
structure Makes (trips : List Trip) (before after : Session) : Prop where
  surroundings_eq : after.surroundings = before.surroundings
  now_le : before.now ≤ after.now
  trips_eq : after.trips = before.trips + trips.length
  started : ∃ added, after.log = added ++ before.log ∧
    numbered before.trips (tripsOf added.reverse) = trips

namespace Makes

variable {trips trips' : List Trip} {s s' s'' : Session}

/-- What has been started is what the log shows. -/
theorem startedBetween_eq (h : Makes trips s s') : s.startedBetween s' = trips := by
  obtain ⟨added, hlog, hadded⟩ := h.started
  rw [startedBetween, tripsBetween, notedBetween_of_log_eq hlog, hadded]

/-- A state that differs in nothing that has to do with the network. -/
theorem nothing (hsurroundings : s'.surroundings = s.surroundings) (hnow : s'.now = s.now)
    (htrips : s'.trips = s.trips) (hlog : s'.log = s.log) : Makes [] s s' :=
  ⟨hsurroundings, hnow.ge, htrips, [], hlog, rfl⟩

/-- A state in which the clock has moved on. -/
theorem moved {moment : Moment} (h : s.now ≤ moment) : Makes [] s { s with now := moment } :=
  ⟨rfl, h, rfl, [], rfl, rfl⟩

theorem trans (h : Makes trips s s') (h' : Makes trips' s' s'') :
    Makes (trips ++ trips') s s'' := by
  obtain ⟨hsurroundings, hnow, htrips, added, hlog, hadded⟩ := h
  obtain ⟨hsurroundings', hnow', htrips', added', hlog', hadded'⟩ := h'
  refine ⟨hsurroundings'.trans hsurroundings, hnow.trans hnow', ?_, added' ++ added, ?_, ?_⟩
  · rw [htrips', htrips, List.length_append, Nat.add_assoc]
  · rw [hlog', hlog, List.append_assoc]
  · have hlength : (tripsOf added.reverse).length = trips.length := by
      rw [← hadded, length_numbered]
    rw [List.reverse_append, tripsOf_append, numbered_append, hlength, ← htrips, hadded, hadded']

theorem nothing_trans (h : Makes [] s s') (h' : Makes trips s' s'') : Makes trips s s'' :=
  h.trans h'

theorem trans_nothing (h : Makes trips s s') (h' : Makes [] s' s'') : Makes trips s s'' := by
  have hwhole := h.trans h'
  rwa [List.append_nil] at hwhole

theorem noted {event : Event} (h : event.request? = none) (s : Session) :
    Makes [] s (s.noted event) := by
  refine ⟨rfl, Nat.le_refl _, rfl, [(s.now, event)], rfl, ?_⟩
  simp [tripsOf, numbered, h]

theorem elapsed (millis : Nat) (s : Session) : Makes [] s (s.elapsed millis) :=
  moved (Nat.le_add_right _ _)

end Makes

/-! ## Sending a request once -/

/-- The round trip that is started now if the request is sent. -/
def trip (r : Request) (s : Session) : Trip := ⟨s.trips, s.now, r⟩

/-- Sending it starts that round trip. -/
theorem makes_send (r : Request) (s : Session) : Makes [s.trip r] s (send r s).2 :=
  ⟨rfl, Nat.le_refl _, rfl, [(s.now, .sent r)], rfl, rfl⟩

/-- Is the request sent now? It is, if there is a host to send it to and its lifetime goes on. -/
def CanSend (r : Request) (s : Session) : Prop :=
  r.url.hostText? ≠ none ∧ r.lifetime.ending? s.now = none

/-- The sending of a request breaks off with such an error in such a state: because of one of these
failures, or because the lifetime has ended. -/
inductive BreaksOff (l : Lifetime) (fails : NetworkError → Prop) : Error → Session → Prop
  | network {cause : NetworkError} {s : Session} (h : fails cause) :
      BreaksOff l fails (.network cause) s
  | ended {e : Ending} {s : Session} (h : l.ending? s.now = some e) : BreaksOff l fails (.ended e) s

theorem BreaksOff.of_now_eq {l : Lifetime} {fails : NetworkError → Prop} {e : Error}
    {s s' : Session} (h : BreaksOff l fails e s) (hnow : s'.now = s.now) :
    BreaksOff l fails e s' := by
  cases h with
  | network h => exact .network h
  | ended h =>
    rw [← hnow] at h
    exact .ended h

/-- How it ends to send a request once, if a whole answer is judged by `judge`, and what is counted
is changed by `count`. -/
inductive Sending (timeout : Option Nat) (r : Request) (s : Session)
    (judge : Response → Except Error Response) (count : Response → Metrics → Metrics) :
    Outcome Response × Session → Prop
  /-- nothing is sent -/
  | unsent {e : Error} {s' : Session} (hsend : ¬ s.CanSend r)
      (herror : BreaksOff r.lifetime (fun cause => r.url.hostText? = none ∧ cause = .noHost) e s')
      (hmakes : Makes [] s s') (hmetrics : s'.metrics = s.metrics) :
      Sending timeout r s judge count (.failed e, s')
  /-- no whole answer comes -/
  | lost {e : Error} {s' : Session} (hsend : s.CanSend r)
      (hlost : (s.trip r).received? s.surroundings.network timeout = none)
      (herror : BreaksOff r.lifetime (fun cause =>
        ((s.trip r).exchange s.surroundings.network timeout).reply.result = .error cause) e s')
      (hmakes : Makes [s.trip r] s s') (hmetrics : s'.metrics = s.metrics) :
      Sending timeout r s judge count (.failed e, s')
  /-- a whole answer comes -/
  | received {raw : Response} {s' : Session} (hsend : s.CanSend r)
      (hreceived : (s.trip r).received? s.surroundings.network timeout = some raw)
      (hmakes : Makes [s.trip r] s s')
      (hnow : s'.now = (s.trip r).endsAt s.surroundings.network timeout)
      (hmetrics : s'.metrics = count raw s.metrics) :
      Sending timeout r s judge count (Task.ofExcept (judge raw) s')

namespace Sending

variable {timeout : Option Nat} {r : Request} {s : Session}
  {judge judge' : Response → Except Error Response} {count count' : Response → Metrics → Metrics}
  {ends : Outcome Response × Session}

/-- What comes before the sending makes no difference if no time passes. -/
theorem of_nothing {s₀ : Session} (hbefore : Makes [] s₀ s) (hnow : s.now = s₀.now)
    (hmetrics : s.metrics = s₀.metrics) (h : Sending timeout r s judge count ends) :
    Sending timeout r s₀ judge count ends := by
  have htrip : s.trip r = s₀.trip r := by
    rw [trip, trip, hnow, hbefore.trips_eq]
    rfl
  have hcan : s.CanSend r ↔ s₀.CanSend r := by rw [CanSend, CanSend, hnow]
  rcases h with ⟨hsend, herror, hmakes, hm⟩ | ⟨hsend, hlost, herror, hmakes, hm⟩ |
    ⟨hsend, hreceived, hmakes, hend, hm⟩
  · exact .unsent (mt hcan.2 hsend) herror (hbefore.nothing_trans hmakes) (hm.trans hmetrics)
  · rw [htrip] at hlost herror hmakes
    rw [hbefore.surroundings_eq] at hlost herror
    exact .lost (hcan.1 hsend) hlost herror (hbefore.nothing_trans hmakes) (hm.trans hmetrics)
  · rw [htrip] at hreceived hmakes hend
    rw [hbefore.surroundings_eq] at hreceived hend
    rw [hmetrics] at hm
    exact .received (hcan.1 hsend) hreceived (hbefore.nothing_trans hmakes) hend hm

/-- **What follows the sending** takes no time, and goes on only with a whole answer. -/
theorem bind {t : Task Session Response} {f : Response → Task Session Response}
    (h : Sending timeout r s .ok count (t s))
    (hf : ∀ raw s', s'.timeOfDay = (s.trip r).timeOfEnd timeout s.surroundings →
      s'.metrics = count raw s.metrics →
      ∃ s'', f raw s' = Task.ofExcept (judge raw) s'' ∧ Makes [] s' s'' ∧ s''.now = s'.now ∧
        s''.metrics = count' raw s.metrics) :
    Sending timeout r s judge count' ((t >>= f) s) := by
  generalize hends : t s = ends at h
  rcases h with ⟨hsend, herror, hmakes, hm⟩ | ⟨hsend, hlost, herror, hmakes, hm⟩ |
    ⟨hsend, hreceived, hmakes, hend, hm⟩
  · rw [Task.bind_failed hends]
    exact .unsent hsend herror hmakes hm
  · rw [Task.bind_failed hends]
    exact .lost hsend hlost herror hmakes hm
  · rename_i raw s'
    have htime : s'.timeOfDay = (s.trip r).timeOfEnd timeout s.surroundings := by
      rw [timeOfDay, hmakes.surroundings_eq, hend]
      rfl
    obtain ⟨s'', hnext, hafter, hnow, hcount⟩ := hf raw s' htime hm
    rw [Task.bind_done hends, hnext]
    exact .received hsend hreceived (hmakes.trans_nothing hafter) (hnow.trans hend) hcount

/-- It ends with a whole answer or an error, and is never out of rounds. -/
theorem eq_ofExcept (h : Sending timeout r s judge count ends) :
    ∃ outcome s', ends = Task.ofExcept outcome s' := by
  rcases h with @⟨e, s', -⟩ | @⟨e, s', -⟩ | @⟨raw, s', -⟩
  · exact ⟨.error e, s', rfl⟩
  · exact ⟨.error e, s', rfl⟩
  · exact ⟨judge raw, s', rfl⟩

/-- What is written down after the sending makes no difference to how it has ended. -/
theorem transcribed {o : Outcome Response} {s' : Session}
    (h : Sending timeout r s judge count (o, s')) (transcript : Transcript) :
    Sending timeout r s judge count (o, { s' with transcript }) := by
  have hafter : Makes [] s' { s' with transcript } := .nothing rfl rfl rfl rfl
  generalize hends : (o, s') = ends at h
  rcases h with ⟨hsend, herror, hmakes, hm⟩ | ⟨hsend, hlost, herror, hmakes, hm⟩ |
    ⟨hsend, hreceived, hmakes, hend, hm⟩
  · obtain ⟨rfl, rfl⟩ := Prod.mk.inj hends
    exact .unsent hsend (herror.of_now_eq rfl) (hmakes.trans_nothing hafter) hm
  · obtain ⟨rfl, rfl⟩ := Prod.mk.inj hends
    exact .lost hsend hlost (herror.of_now_eq rfl) (hmakes.trans_nothing hafter) hm
  · rename_i raw s₁
    have hsame : (o, { s' with transcript }) =
        Task.ofExcept (judge raw) { s₁ with transcript } := by
      cases hj : judge raw with
      | ok response =>
        rw [hj] at hends
        obtain ⟨rfl, rfl⟩ := Prod.mk.inj hends
        rfl
      | error e =>
        rw [hj] at hends
        obtain ⟨rfl, rfl⟩ := Prod.mk.inj hends
        rfl
    rw [hsame]
    exact .received hsend hreceived (hmakes.trans_nothing (.nothing rfl rfl rfl rfl)) hend hm

end Sending

/-- A wait on the way: the answer is lost if the lifetime ends it. -/
theorem Sending.wait_bind {timeout : Option Nat} {r : Request} {s s₁ : Session}
    {judge : Response → Except Error Response} {count : Response → Metrics → Metrics} {millis : Nat}
    {f : Unit → Task Session Response} (hsend : s.CanSend r) (hmakes : Makes [s.trip r] s s₁)
    (hmetrics : s₁.metrics = s.metrics)
    (hle : s₁.now + millis ≤ (s.trip r).endsAt s.surroundings.network timeout)
    (hf : r.lifetime.ending? (s₁.now + millis) = none →
      Sending timeout r s judge count (f () (s₁.elapsed millis))) :
    Sending timeout r s judge count ((wait r.lifetime millis >>= f) s₁) := by
  rcases wait_cases r.lifetime millis s₁ with ⟨hlive, hwait⟩ | ⟨hend, moment, e, hmoment, he, hwait⟩
  · rw [Task.bind_done hwait]
    exact hf hlive
  · rw [Task.bind_failed hwait]
    have hlost := Trip.received?_of_ended (t := s.trip r) fun hnone =>
      hend (Lifetime.ending?_eq_none_of_le hnone hle)
    exact .lost hsend hlost (.ended he) (hmakes.trans_nothing (.moved hmoment)) hmetrics

/-- **Inversion for a round trip.** -/
theorem roundTrip_sending (timeout : Option Nat) (r : Request) (s : Session) :
    Sending timeout r s .ok (fun _ => id) (roundTrip timeout r s) := by
  rw [roundTrip]
  rcases wait_cases r.lifetime 0 s with ⟨hlive, hwait⟩ | ⟨hend, moment, e, hmoment, he, hwait⟩
  case inr =>
    rw [Task.bind_failed hwait]
    exact .unsent (fun hsend => hend hsend.2) (.ended he) (.moved hmoment) rfl
  have hsame : s.elapsed 0 = s := rfl
  rw [Task.bind_done hwait, hsame]
  by_cases hhost : r.url.hostText?.isNone = true
  · rw [if_pos hhost]
    rw [Option.isNone_iff_eq_none] at hhost
    exact .unsent (fun hsend => hsend.1 hhost) (.network ⟨hhost, rfl⟩)
      (.nothing rfl rfl rfl rfl) rfl
  rw [if_neg hhost]
  rw [Option.isNone_iff_eq_none] at hhost
  have hsend : s.CanSend r := ⟨hhost, hlive⟩
  -- from here on the request is on its way
  let s₁ : Session := { s.noted (.sent r) with trips := s.trips + 1 }
  have hsent : send r s = (.done (s.surroundings.network s.trips r), s₁) := rfl
  have hmakes : Makes [s.trip r] s s₁ := makes_send r s
  have hend : (s.trip r).endsAt s.surroundings.network timeout =
      s.now + ((s.trip r).exchange s.surroundings.network timeout).duration := rfl
  rw [Task.bind_done hsent]
  change Sending timeout r s .ok (fun _ => id) ((do
    wait r.lifetime ((s.trip r).exchange s.surroundings.network timeout).delay
    receive r.lifetime ((s.trip r).exchange s.surroundings.network timeout).reply) s₁)
  rcases hex : (s.trip r).exchange s.surroundings.network timeout with
    ⟨delay, error | ⟨status, headers, bodyDelay, body⟩⟩ <;> rw [hex] at hend
  · refine .wait_bind hsend hmakes rfl (Nat.le_of_eq hend.symm) fun _ => ?_
    have hfailure : ((s.trip r).exchange s.surroundings.network timeout).reply.result =
        .error error := by
      rw [hex]
      rfl
    exact .lost hsend (Trip.received?_of_failure hfailure) (.network hfailure)
      (hmakes.trans_nothing (.elapsed delay s₁)) rfl
  · have hlast : (s.trip r).endsAt s.surroundings.network timeout = s.now + delay + bodyDelay :=
      hend.trans (Nat.add_assoc _ _ _).symm
    refine .wait_bind hsend hmakes rfl (hlast ▸ Nat.le_add_right _ _) fun _ => ?_
    have hhead := hmakes.trans_nothing (.elapsed delay s₁)
    refine .wait_bind hsend hhead rfl (Nat.le_of_eq hlast.symm) fun hlive => ?_
    have hwhole := hhead.trans_nothing (.elapsed bodyDelay _)
    cases body with
    | error error =>
      have hfailure : ((s.trip r).exchange s.surroundings.network timeout).reply.result =
          .error error := by
        rw [hex]
        rfl
      exact .lost hsend (Trip.received?_of_failure hfailure) (.network hfailure) hwhole rfl
    | ok bytes =>
      have hreceived : (s.trip r).received? s.surroundings.network timeout =
          some (.received status headers bytes) := by
        rw [Trip.received?, hlast, if_pos (by exact hlive), hex]
        rfl
      exact .received hsend hreceived hwhole hlast.symm rfl

end Session

namespace Client

open Session (Sending)

/-- What a client counts of an answer. -/
def counted (c : Client) (r : Request) (raw : Response) (m : Metrics) : Metrics :=
  if c.isInstrumented then m.observe raw.status r.method r.operation else m

variable (c : Client) (r : Request) (s : Session)

/-- A whole answer is counted. -/
theorem countedTrip_sending :
    Sending c.timeout r s .ok (c.counted r) (c.countedTrip r s) := by
  refine (Session.roundTrip_sending c.timeout r s).bind fun raw s' _ hm => ?_
  change ∃ s'', (if c.isInstrumented then Session.observe r raw.status >>= fun _ => pure raw
    else pure raw : Task Session Response) s' = _ ∧ _
  have hm : s'.metrics = s.metrics := hm
  rw [counted]
  split
  · refine ⟨_, rfl, .nothing rfl rfl rfl rfl, rfl, ?_⟩
    rw [← hm]
  · exact ⟨s', rfl, .nothing rfl rfl rfl rfl, rfl, hm⟩

/-- It gets its verdict. -/
theorem judgedTrip_sending :
    Sending c.timeout r s ((s.trip r).verdict c.timeout s.surroundings) (c.counted r)
      (c.judgedTrip r s) := by
  refine (c.countedTrip_sending r s).bind fun raw s' htime hm =>
    ⟨s', ?_, .nothing rfl rfl rfl rfl, rfl, hm⟩
  rw [Trip.verdict, ← htime]
  rfl

/-- Writing down how an attempt has ended changes nothing else. -/
theorem transcribeOutcome_inv (outcome : Except Error Response) :
    ∃ transcript, transcribeOutcome outcome s = (.done (), { s with transcript }) := by
  rcases outcome with e | response
  · rw [transcribeOutcome]
    rcases e.response? with _ | response
    · exact ⟨s.transcript, rfl⟩
    · exact ⟨_, rfl⟩
  · exact ⟨_, rfl⟩

/-- **Inversion for an attempt.** -/
theorem attempt_sending :
    Sending c.timeout r s ((s.trip r).verdict c.timeout s.surroundings) (c.counted r)
      (c.attempt r s) := by
  rw [attempt]
  split
  · -- the same with a line written before and one after it
    let s₁ := (Session.transcribe (Transcript.requestEntry r) s).2
    have hfirst : Session.transcribe (Transcript.requestEntry r) s = (.done (), s₁) := rfl
    rw [Task.bind_done hfirst]
    refine .of_nothing (s := s₁) (.nothing rfl rfl rfl rfl) rfl rfl ?_
    have htrip := c.judgedTrip_sending r s₁
    obtain ⟨outcome, s₂, hends⟩ := htrip.eq_ofExcept
    obtain ⟨transcript, hlast⟩ := transcribeOutcome_inv s₂ outcome
    rw [Task.bind_done (Task.attempt_ofExcept hends), Task.bind_done hlast]
    rw [hends] at htrip
    cases outcome with
    | ok response => exact htrip.transcribed transcript
    | error e => exact htrip.transcribed transcript
  · exact c.judgedTrip_sending r s

end Client

end CloudClient
