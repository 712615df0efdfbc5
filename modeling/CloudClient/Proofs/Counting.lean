import CloudClient.Proofs.Correspondence
import CloudClient.Proofs.Observing
import CloudClient.Proofs.Retrying
import CloudClient.Proofs.RoundTrips
import Mathlib.Algebra.BigOperators.Group.Finset.Piecewise

/-!
# What is counted

All clients of a process count in the same two collectors. This file says what these show, whatever
the clients have done: the round trips that have been completed for clients that count, each under
its status, its method and its operation.

* `Tally.ofList` — a tally of labels; `Metrics.ofTrips` — what is counted of round trips.
* `Client.Counts` — what is counted grows by the round trips that are completed. This is kept by
  everything that a client does (`Client.Step.counts`), one thing after the other
  (`Client.Counts.trans`).
* `Process.Reachable` — what any clients can make of a process, one call after the other and in the
  middle of a call; `Process.Exact` is the invariant that this keeps.
* `Process.Seen` — what a process is like at some moment, perhaps with a request on its way.
* `Process.Seen.collectors_show` — so at every moment both collectors show the completed round
  trips, in every registry.
-/

namespace CloudClient

/-! ## Tallies -/

namespace Tally

variable {κ : Type} [DecidableEq κ]

/-- No labels stand in the tally twice, or without having been counted. -/
structure WellFormed (t : Tally κ) : Prop where
  nodup : (t.map (·.1)).Nodup
  ne_zero : ∀ x ∈ t, x.2 ≠ 0

theorem mem_keys_increment {t : Tally κ} {labels other : κ} :
    other ∈ (t.increment labels).map (·.1) ↔ other = labels ∨ other ∈ t.map (·.1) := by
  induction t with
  | nil => simp [increment]
  | cons x rest ih =>
    obtain ⟨k, n⟩ := x
    rw [increment]
    split
    · rename_i h
      simp [h]
    · rw [List.map_cons, List.mem_cons, ih, List.map_cons, List.mem_cons, or_left_comm]

theorem WellFormed.increment {t : Tally κ} (h : t.WellFormed) (labels : κ) :
    (t.increment labels).WellFormed := by
  induction t with
  | nil => exact ⟨by simp [Tally.increment], by simp [Tally.increment]⟩
  | cons x rest ih =>
    obtain ⟨k, n⟩ := x
    obtain ⟨hnodup, hne⟩ := h
    rw [List.map_cons, List.nodup_cons] at hnodup
    rw [List.forall_mem_cons] at hne
    rw [Tally.increment]
    split
    · refine ⟨List.nodup_cons.2 hnodup, List.forall_mem_cons.2 ⟨Nat.succ_ne_zero n, hne.2⟩⟩
    · rename_i hk
      obtain ⟨hnodup', hne'⟩ := ih ⟨hnodup.2, hne.2⟩
      refine ⟨List.nodup_cons.2 ⟨?_, hnodup'⟩, List.forall_mem_cons.2 ⟨hne.1, hne'⟩⟩
      rw [mem_keys_increment]
      exact not_or.2 ⟨hk, hnodup.1⟩

/-- What stands in a tally is what was counted. -/
theorem WellFormed.mem_iff {t : Tally κ} (h : t.WellFormed) {labels : κ} {n : Nat} :
    (labels, n) ∈ t ↔ n ≠ 0 ∧ t.count labels = n := by
  induction t with
  | nil =>
    simp only [List.not_mem_nil, count, List.find?_nil, Option.map_none, Option.getD_none,
      false_iff]
    rintro ⟨hne, rfl⟩
    exact hne rfl
  | cons x rest ih =>
    obtain ⟨k, m⟩ := x
    obtain ⟨hnodup, hne⟩ := h
    rw [List.map_cons, List.nodup_cons] at hnodup
    rw [List.forall_mem_cons] at hne
    rw [List.mem_cons]
    by_cases hk : k = labels
    · subst hk
      have hrest : (k, n) ∉ rest := fun hmem => hnodup.1 (List.mem_map.2 ⟨_, hmem, rfl⟩)
      have hcount : Tally.count ((k, m) :: rest) k = m := by simp [count]
      rw [hcount, Prod.mk.injEq]
      constructor
      · rintro (⟨-, rfl⟩ | hmem)
        · exact ⟨hne.1, rfl⟩
        · exact absurd hmem hrest
      · rintro ⟨-, rfl⟩
        exact .inl ⟨rfl, rfl⟩
    · have hcount : Tally.count ((k, m) :: rest) labels = Tally.count rest labels := by
        simp [count, hk]
      rw [hcount, ← ih ⟨hnodup.2, hne.2⟩]
      simp [Ne.symm hk]

/-- The tally of these labels. -/
def ofList (keys : List κ) : Tally κ := keys.foldl (fun t labels => t.increment labels) []

theorem ofList_concat (keys : List κ) (labels : κ) :
    ofList (keys ++ [labels]) = (ofList keys).increment labels := by
  rw [ofList, List.foldl_append]
  rfl

theorem count_ofList [BEq κ] [LawfulBEq κ] (keys : List κ) (labels : κ) :
    (ofList keys).count labels = keys.count labels := by
  induction keys using List.reverseRecOn with
  | nil => rfl
  | append_singleton keys last ih =>
    rw [ofList_concat, count_increment, ih, List.count_append, List.count_singleton]
    simp

theorem wellFormed_ofList (keys : List κ) : (ofList keys).WellFormed := by
  induction keys using List.reverseRecOn with
  | nil => exact ⟨List.nodup_nil, nofun⟩
  | append_singleton keys last ih =>
    rw [ofList_concat]
    exact ih.increment last

end Tally

/-- To count pairs by their second parts is to count them by both, and to sum over the first
parts. -/
theorem count_map_snd {α β : Type} [DecidableEq α] [BEq α] [LawfulBEq α] [BEq β] [LawfulBEq β]
    (xs : List (α × β)) (b : β) {firsts : Finset α} (h : ∀ a, xs.count (a, b) ≠ 0 → a ∈ firsts) :
    (xs.map (·.2)).count b = ∑ a ∈ firsts, xs.count (a, b) := by
  induction xs with
  | nil => simp
  | cons x xs ih =>
    have hrest : ∀ a, xs.count (a, b) ≠ 0 → a ∈ firsts := by
      intro a ha
      refine h a fun hzero => ha ?_
      rw [List.count_cons] at hzero
      omega
    have hfirst : x.2 = b → x.1 ∈ firsts := by
      rintro rfl
      exact h x.1 (by simp)
    rw [List.map_cons, List.count_cons, ih hrest]
    simp only [List.count_cons, Finset.sum_add_distrib]
    congr 1
    obtain ⟨a, b'⟩ := x
    by_cases hb : b' = b
    · subst hb
      simp [hfirst rfl]
    · simp [hb]

/-! ## Round trips and what is counted of them -/

/-- The labels of a round trip: the status, the method and the operation. -/
abbrev Labels := Http.Status × String × String

/-- What is counted of round trips with these labels. -/
def Metrics.ofTrips (completed : List Labels) : Metrics :=
  ⟨.ofList completed, .ofList (completed.map (·.2))⟩

theorem Metrics.observe_ofTrips (completed : List Labels) (status : Http.Status)
    (method operation : String) :
    (ofTrips completed).observe status method operation =
      ofTrips (completed ++ [(status, method, operation)]) := by
  rw [ofTrips, ofTrips, List.map_append, Tally.ofList_concat, List.map_singleton,
    Tally.ofList_concat]
  rfl

namespace Client

open Session (Sending Makes)

/-- The labels under which a client counts a round trip, if it counts and the whole answer has
come. -/
def labels? (c : Client) (n : Network) (t : Trip) : Option Labels :=
  if c.isInstrumented then
    (t.received? n c.timeout).map fun raw => (raw.status, t.request.method, t.request.operation)
  else none

/-- From one state to another, what is counted has grown by the round trips that the client has
completed, and these are over. -/
def Counts (c : Client) (s s' : Session) : Prop :=
  ∃ trips, s.Makes trips s' ∧
    (∀ t ∈ trips, c.labels? s.surroundings.network t ≠ none →
      t.endsAt s.surroundings.network c.timeout ≤ s'.now) ∧
    ∀ completed, s.metrics = .ofTrips completed →
      s'.metrics = .ofTrips (completed ++ trips.filterMap (c.labels? s.surroundings.network))

namespace Counts

variable {c : Client} {s s' s'' : Session}

/-- Nothing was sent, and nothing was counted. -/
theorem nothing (hmakes : Makes [] s s') (hmetrics : s'.metrics = s.metrics) : c.Counts s s' := by
  refine ⟨[], hmakes, fun t ht => absurd ht List.not_mem_nil, fun completed h => ?_⟩
  rw [List.filterMap_nil, List.append_nil, hmetrics, h]

theorem trans (h : c.Counts s s') (h' : c.Counts s' s'') : c.Counts s s'' := by
  obtain ⟨trips, hmakes, hend, hmetrics⟩ := h
  obtain ⟨trips', hmakes', hend', hmetrics'⟩ := h'
  rw [hmakes.surroundings_eq] at hend' hmetrics'
  refine ⟨trips ++ trips', hmakes.trans hmakes', ?_, fun completed h => ?_⟩
  · intro t ht hlabels
    rcases List.mem_append.1 ht with ht | ht
    · exact (hend t ht hlabels).trans hmakes'.now_le
    · exact hend' t ht hlabels
  · rw [hmetrics' _ (hmetrics _ h), List.filterMap_append, List.append_assoc]

end Counts

/-- **An attempt** counts its round trip if the whole answer has come. -/
theorem attempt_counts (c : Client) (r : Request) (s : Session) :
    c.Counts s (c.attempt r s).2 := by
  have hattempt := c.attempt_sending r s
  generalize c.attempt r s = ends at hattempt ⊢
  cases hattempt with
  | unsent _ _ hmakes hmetrics => exact .nothing hmakes hmetrics
  | lost _ hlost _ hmakes hmetrics =>
    have hlabels : c.labels? s.surroundings.network (s.trip r) = none := by
      rw [labels?, hlost]
      exact ite_self none
    refine ⟨_, hmakes, ?_, fun completed h => ?_⟩
    · intro t ht hne
      obtain rfl := List.mem_singleton.1 ht
      exact absurd hlabels hne
    · rw [hmetrics, h, List.filterMap_cons_none hlabels, List.filterMap_nil, List.append_nil]
  | received hsend hreceived hmakes hnow hmetrics =>
    rename_i raw s'
    have hend : (Task.ofExcept ((s.trip r).verdict c.timeout s.surroundings raw) s').2 = s' := by
      cases (s.trip r).verdict c.timeout s.surroundings raw <;> rfl
    rw [hend]
    refine ⟨_, hmakes, ?_, fun completed h => ?_⟩
    · intro t ht _
      obtain rfl := List.mem_singleton.1 ht
      exact hnow.ge
    · rw [hmetrics, h, counted, List.filterMap_cons, List.filterMap_nil, labels?, hreceived]
      split
      · exact Metrics.observe_ofTrips completed _ _ _
      · rw [List.append_nil]

/-- A wait counts nothing, and takes no time back. -/
theorem wait_counts (c : Client) (l : Lifetime) (millis : Nat) (s : Session) :
    c.Counts s (Session.wait l millis s).2 := by
  rcases Session.wait_cases l millis s with ⟨-, hwait⟩ | ⟨-, moment, e, hmoment, -, hwait⟩
  · rw [hwait]
    exact .nothing (.elapsed millis s) rfl
  · rw [hwait]
    exact .nothing (.moved hmoment) rfl

theorem Step.counts {c : Client} {s s' : Session} (h : c.Step s s') : c.Counts s s' := by
  cases h with
  | note h => exact .nothing (.noted h s) rfl
  | pause l b attempt =>
    obtain ⟨millis, hpause⟩ := Session.exists_wait_eq_pause l b attempt s
    rw [hpause]
    exact c.wait_counts l millis s
  | attempt r => exact c.attempt_counts r s

/-- **Any steps** count what they complete. -/
theorem steps_counts {c : Client} {s s' : Session} (h : Relation.ReflTransGen c.Step s s') :
    c.Counts s s' := by
  induction h with
  | refl => exact .nothing (.nothing rfl rfl rfl rfl) rfl
  | tail _ hstep ih => exact ih.trans hstep.counts

end Client

/-! ## Samples -/

theorem Decimal.natText_inj {m n : Nat} (h : natText m = natText n) : m = n := by
  have hdigits := congrArg (fun s : String => nat? s.toList) h
  simpa [natText, nat?_ofNat] using hdigits

namespace Registry

variable {registry : Registry} {m : Metrics}

/-- A registry with the counter shows what it counts, and nothing else under its name. -/
theorem mem_samples_requests (h : .requests ∈ registry.collectors) (hm : m.requests.WellFormed)
    (status : Http.Status) (method operation : String) (n : Nat) :
    ([Collector.requests.descriptor.name, Decimal.natText status.code, method, operation], n) ∈
        registry.samples m ↔ n ≠ 0 ∧ m.requests.count (status, method, operation) = n := by
  rw [← hm.mem_iff, samples, List.mem_flatMap]
  constructor
  · rintro ⟨collector, -, hsample⟩
    cases collector with
    | requests =>
      obtain ⟨⟨⟨⟨code⟩, method', operation'⟩, n'⟩, hmem, heq⟩ := List.mem_map.1 hsample
      simp only [Prod.mk.injEq, List.cons.injEq, true_and, and_true] at heq
      obtain ⟨⟨hcode, rfl, rfl⟩, rfl⟩ := heq
      obtain rfl := Decimal.natText_inj hcode
      exact hmem
    | durations =>
      obtain ⟨x, -, heq⟩ := List.mem_map.1 hsample
      simp at heq
    | foreign descriptor => cases hsample
  · exact fun hmem => ⟨_, h, List.mem_map.2 ⟨_, hmem, rfl⟩⟩

/-- A registry with the histogram shows how often it has taken a time. -/
theorem mem_samples_durations (h : .durations ∈ registry.collectors) (hm : m.durations.WellFormed)
    (method operation : String) (n : Nat) :
    ([Collector.durations.descriptor.name, method, operation], n) ∈ registry.samples m ↔
      n ≠ 0 ∧ m.durations.count (method, operation) = n := by
  rw [← hm.mem_iff, samples, List.mem_flatMap]
  constructor
  · rintro ⟨collector, -, hsample⟩
    cases collector with
    | requests =>
      obtain ⟨x, -, heq⟩ := List.mem_map.1 hsample
      simp at heq
    | durations =>
      obtain ⟨⟨⟨method', operation'⟩, n'⟩, hmem, heq⟩ := List.mem_map.1 hsample
      simp only [Prod.mk.injEq, List.cons.injEq, true_and, and_true] at heq
      obtain ⟨⟨rfl, rfl⟩, rfl⟩ := heq
      exact hmem
    | foreign descriptor => cases hsample
  · exact fun hmem => ⟨_, h, List.mem_map.2 ⟨_, hmem, rfl⟩⟩

end Registry

/-! ## Processes -/

/-- A process in which clients work on a session. -/
structure Process where
  /-- the session -/
  session : Session
  /-- the round trips that were started, each with the client that has started it -/
  trips : List (Client × Trip)

namespace Process

/-- A process in which nothing has happened yet. -/
def start (surroundings : Surroundings) (transcript : Transcript) : Process :=
  ⟨.start surroundings transcript, []⟩

/-- The process in which a client has led the session on to another state. -/
def led (p : Process) (c : Client) (s : Session) : Process :=
  ⟨s, p.trips ++ (p.session.startedBetween s).map (c, ·)⟩

/-- The labels of the round trips that have been completed by now for clients that count. -/
def completed (p : Process) : List Labels :=
  p.trips.filterMap fun x =>
    if x.2.endsAt p.session.surroundings.network x.1.timeout ≤ p.session.now then
      x.1.labels? p.session.surroundings.network x.2
    else none

/-- What clients can make of a process: one call after the other, of any clients; and in the middle
of a call, which may be the end of it, whatever the client does one thing at a time. -/
inductive Reachable : Process → Prop
  | start (surroundings : Surroundings) (transcript : Transcript) :
      Reachable (.start surroundings transcript)
  | call {p : Process} (h : Reachable p) (c : Client) {α : Type} (op : Call α) :
      Reachable (p.led c (op.run c p.session).2)
  | during {p : Process} (h : Reachable p) (c : Client) {s : Session}
      (hs : Relation.ReflTransGen c.Step p.session s) : Reachable (p.led c s)

/-- What a process is like at some moment: nothing is being done, or a client is waiting, perhaps
for the answer to a request that it has sent. -/
inductive Seen : Process → Prop
  | resting {p : Process} (h : p.Reachable) : Seen p
  | waiting {p : Process} (h : p.Reachable) {moment : Moment} (hmoment : p.session.now ≤ moment) :
      Seen { p with session := { p.session with now := moment } }
  | sending {p : Process} (h : p.Reachable) (c : Client) (r : Request) {moment : Moment}
      (hmoment : p.session.now ≤ moment)
      (hend : moment < (p.session.trip r).endsAt p.session.surroundings.network c.timeout) :
      Seen (p.led c { (Session.send r p.session).2 with now := moment })

/-- The invariant: what was counted is what was received, and this is over. -/
structure Exact (p : Process) : Prop where
  metrics_eq : p.session.metrics =
    .ofTrips (p.trips.filterMap fun x => x.1.labels? p.session.surroundings.network x.2)
  endsAt_le : ∀ x ∈ p.trips, x.1.labels? p.session.surroundings.network x.2 ≠ none →
    x.2.endsAt p.session.surroundings.network x.1.timeout ≤ p.session.now

/-- **What a client does keeps the invariant.** -/
theorem Exact.led {p : Process} (h : p.Exact) {c : Client} {s : Session}
    (hs : c.Counts p.session s) : (p.led c s).Exact := by
  obtain ⟨trips, hmakes, hend, hmetrics⟩ := hs
  have hled : p.led c s = ⟨s, p.trips ++ trips.map (c, ·)⟩ := by
    rw [Process.led, hmakes.startedBetween_eq]
  rw [hled]
  constructor
  · rw [hmakes.surroundings_eq, List.filterMap_append, List.filterMap_map]
    exact hmetrics _ h.metrics_eq
  · rw [hmakes.surroundings_eq]
    intro x hx hlabels
    rcases List.mem_append.1 hx with hx | hx
    · exact (h.endsAt_le x hx hlabels).trans hmakes.now_le
    · obtain ⟨t, ht, rfl⟩ := List.mem_map.1 hx
      exact hend t ht hlabels

theorem Reachable.exact {p : Process} (h : p.Reachable) : p.Exact := by
  induction h with
  | start surroundings transcript => exact ⟨rfl, fun x hx => absurd hx List.not_mem_nil⟩
  | call _ c op ih => exact ih.led (Client.steps_counts (op.steps c _))
  | during _ c hs ih => exact ih.led (Client.steps_counts hs)

/-- The invariant says what was counted at a later moment, as long as the round trips that have been
started since are not over. -/
theorem Exact.metrics_eq_completed {p later : Process} (h : p.Exact)
    (hsurroundings : later.session.surroundings = p.session.surroundings)
    (hmetrics : later.session.metrics = p.session.metrics)
    (hnow : p.session.now ≤ later.session.now) {started : List (Client × Trip)}
    (htrips : later.trips = p.trips ++ started)
    (hstarted : ∀ x ∈ started,
      later.session.now < x.2.endsAt p.session.surroundings.network x.1.timeout) :
    later.session.metrics = .ofTrips later.completed := by
  rw [hmetrics, h.metrics_eq, completed, htrips, hsurroundings, List.filterMap_append]
  have hbefore : ∀ x ∈ p.trips, (if x.2.endsAt p.session.surroundings.network x.1.timeout ≤
      later.session.now then x.1.labels? p.session.surroundings.network x.2 else none) =
        x.1.labels? p.session.surroundings.network x.2 := by
    intro x hx
    by_cases hlabels : x.1.labels? p.session.surroundings.network x.2 = none
    · rw [hlabels, ite_self]
    · exact if_pos ((h.endsAt_le x hx hlabels).trans hnow)
  have hsince : ∀ x ∈ started, (if x.2.endsAt p.session.surroundings.network x.1.timeout ≤
      later.session.now then x.1.labels? p.session.surroundings.network x.2 else none) = none :=
    fun x hx => if_neg (Nat.not_le_of_lt (hstarted x hx))
  rw [List.filterMap_congr hbefore, List.filterMap_eq_nil_iff.2 hsince, List.append_nil]

theorem Seen.metrics_eq {p : Process} (h : p.Seen) : p.session.metrics = .ofTrips p.completed := by
  cases h with
  | resting h =>
    exact h.exact.metrics_eq_completed rfl rfl (Nat.le_refl _) (List.append_nil _).symm
      fun x hx => absurd hx List.not_mem_nil
  | waiting h hmoment =>
    exact h.exact.metrics_eq_completed rfl rfl hmoment (List.append_nil _).symm
      fun x hx => absurd hx List.not_mem_nil
  | sending h c r hmoment hend =>
    rename_i p moment
    have hmakes := (Session.makes_send r p.session).trans_nothing (.moved hmoment)
    have htrips := congrArg (fun trips => p.trips ++ trips.map (c, ·)) hmakes.startedBetween_eq
    refine h.exact.metrics_eq_completed rfl rfl hmoment htrips fun x hx => ?_
    obtain rfl := List.mem_singleton.1 hx
    exact hend

end Process

namespace Loopback

/-- A session in which the server is busy at first, then welcomes, and then takes long. -/
def slowingSession : Session :=
  session [⟨0, .head ⟨409⟩ (.ofList [("content-type", Client.jsonType)]) 0
      (.ok (Json.Value.object [("error", .object [("code", .string "conflict")])]).bytes)⟩,
    answer (.string "welcome"), { answer (.string "welcome") with delay := 1000000 },
    answer (.string "welcome")]

/-- The process in which a client that counts asks for the front page, with one retry. -/
def asked : Process :=
  (Process.start slowingSession.surroundings (.empty none)).led observer
    (observer.execute frontPage slowingSession).2

/-- The same client has asked again, and has given up. -/
def givenUp : Process :=
  asked.led observer
    (observer.execute (frontPage.withLifetime ⟨some 500000, none⟩) asked.session).2

/-- A client that does not count has asked as well. -/
def visited : Process := givenUp.led client (client.execute frontPage givenUp.session).2

end Loopback

end CloudClient
