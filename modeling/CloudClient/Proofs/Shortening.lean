import CloudClient.Proofs.Noting
import CloudClient.Proofs.Pauses
import Mathlib.Order.Nat

/-!
# Operations in a shorter lifetime

What does the end of a lifetime change? The same operation is run twice from the same session: once
in a lifetime without an end, and once in a lifetime that ends at the moment `T`. Up to `T` the two
runs are **alike**: the sessions differ in nothing but the lifetimes that their requests carry. At
`T` the second run is **stopped**, and the first one goes on alone.

* `Shortens` — whatever state the two runs start from, as long as they are alike, they either both
  end before `T`, and are still alike, or the second one fails at `T` with the ending of its
  lifetime.
* `Barred` — a task that has nothing left to do but to fail, because the lifetime has ended. A retry
  that is judged worth while even after the end of the lifetime is such a task.

Both are kept by everything that operations are made of. A failure that is looked at, and not just
handed on, needs both of them (`Shortens.attempt_bind`): the second run looks at the ending.
-/

namespace CloudClient

/-! ## Events and round trips -/

/-- The event, with any request that is sent in this lifetime. -/
def Event.inLifetime (l : Lifetime) : Event → Event
  | .sent r => .sent (r.withLifetime l)
  | event => event

theorem Event.inLifetime_of_request?_eq_none {l : Lifetime} {event : Event}
    (h : event.request? = none) : event.inLifetime l = event := by
  cases event with
  | sent r => cases h
  | _ => rfl

/-- The round trips among events, with the moments at which they were started. -/
def tripsOf (noted : List (Moment × Event)) : List (Moment × Request) :=
  noted.filterMap fun x => x.2.request?.map fun r => (x.1, r)

@[simp] theorem tripsOf_append (noted noted' : List (Moment × Event)) :
    tripsOf (noted ++ noted') = tripsOf noted ++ tripsOf noted' :=
  List.filterMap_append

theorem tripsOf_reverse (noted : List (Moment × Event)) :
    tripsOf noted.reverse = (tripsOf noted).reverse :=
  List.filterMap_reverse

/-- Every round trip comes from an event at its moment. -/
theorem moment_of_mem_tripsOf {noted : List (Moment × Event)} {trip : Moment × Request}
    (h : trip ∈ tripsOf noted) : ∃ x ∈ noted, x.1 = trip.1 := by
  obtain ⟨x, hx, htrip⟩ := List.mem_filterMap.1 h
  obtain ⟨r, -, rfl⟩ := Option.map_eq_some_iff.1 htrip
  exact ⟨x, hx, rfl⟩

/-- In another lifetime there are the same round trips, each in that lifetime. -/
theorem tripsOf_inLifetime (l : Lifetime) (noted : List (Moment × Event)) :
    tripsOf (noted.map fun x => (x.1, x.2.inLifetime l)) =
      (tripsOf noted).map fun trip => (trip.1, trip.2.withLifetime l) := by
  rw [tripsOf, tripsOf, List.filterMap_map, List.map_filterMap]
  congr 1
  funext ⟨moment, event⟩
  cases event <;> rfl

/-- The round trips that were started between two states of a session, the earliest one first. -/
def Session.tripsBetween (before after : Session) : List (Moment × Request) :=
  tripsOf (before.notedBetween after)

/-- Does the network take no notice of lifetimes? They do not travel. -/
def Network.IgnoresLifetimes (n : Network) : Prop :=
  ∀ trips r l, n trips (Request.withLifetime r l) = n trips r

/-! ## Sessions that go on -/

/-- The second session has come from the first one: no time was taken back, and what was noted was
noted since. -/
def Session.Precedes (s s' : Session) : Prop :=
  s.now ≤ s'.now ∧ ∃ added, s'.log = added ++ s.log ∧ ∀ x ∈ added, s.now ≤ x.1

namespace Session.Precedes

variable {s s' s'' : Session}

theorem refl (s : Session) : s.Precedes s := ⟨Nat.le_refl _, [], rfl, by simp⟩

theorem trans (h : s.Precedes s') (h' : s'.Precedes s'') : s.Precedes s'' := by
  obtain ⟨hnow, added, hlog, hadded⟩ := h
  obtain ⟨hnow', added', hlog', hadded'⟩ := h'
  refine ⟨hnow.trans hnow', added' ++ added, by rw [hlog', hlog, List.append_assoc], ?_⟩
  intro x hx
  rcases List.mem_append.1 hx with hx | hx
  · exact hnow.trans (hadded' x hx)
  · exact hadded x hx

/-- Nothing was noted. -/
theorem of_log_eq (hnow : s.now ≤ s'.now) (hlog : s'.log = s.log) : s.Precedes s' :=
  ⟨hnow, [], hlog, by simp⟩

end Session.Precedes

/-- The task moves the session on. -/
def Forward {α : Type} (t : Task Session α) : Prop := ∀ s : Session, s.Precedes (t s).2

namespace Forward

variable {α β : Type}

theorem bind {t : Task Session α} {f : α → Task Session β} (ht : Forward t)
    (hf : ∀ a, Forward (f a)) : Forward (t >>= f) := by
  intro s
  have hs := ht s
  rcases h : t s with ⟨a | e | _, s'⟩ <;> rw [h] at hs
  · rw [Task.bind_done h]
    exact hs.trans (hf a s')
  · rwa [Task.bind_failed h]
  · rwa [Task.bind_unfinished h]

theorem attempt {t : Task Session α} (ht : Forward t) : Forward t.attempt := by
  intro s
  have hs := ht s
  rw [Task.attempt]
  rcases h : t s with ⟨_ | _ | _, s'⟩ <;> rwa [h] at hs

/-- A wait takes no time back. -/
theorem wait (l : Lifetime) (millis : Nat) : Forward (Session.wait l millis) := by
  intro s
  have hle := l.le_wait s.now millis
  rw [Session.wait]
  rcases h : l.wait s.now millis with ⟨moment, _ | ending⟩ <;> rw [h] at hle
  · exact .of_log_eq hle rfl
  · exact .of_log_eq hle rfl

end Forward

/-! ## Two runs -/

section TwoRuns

variable (l : Lifetime) (T : Moment) (e : Ending) (base : List (Moment × Event))

/-- The second session is the first one, but for the lifetime of the requests that were sent after
the log had been `base`. -/
structure Alike (s s' : Session) : Prop where
  /-- the network takes no notice of lifetimes -/
  blind : s.surroundings.network.IgnoresLifetimes
  /-- nothing else differs -/
  differ : ∃ added, s.log = added ++ base ∧ (∀ x ∈ added, x.1 ≤ s.now) ∧
    s' = { s with log := (added.map fun x => (x.1, x.2.inLifetime l)) ++ base }

/-- The second session has come to its end at `T`, with the round trips that were started before `T`
in the first one. -/
structure Stopped (s s' : Session) : Prop where
  /-- the first session goes on -/
  le_now : T ≤ s.now
  /-- the second session is at its end -/
  now_eq : s'.now = T
  /-- the round trips since the log had been `base` -/
  trips : ∃ added added', s.log = added ++ base ∧ s'.log = added' ++ base ∧
    tripsOf added' =
      ((tripsOf added).filter (·.1 < T)).map fun trip => (trip.1, trip.2.withLifetime l)

/-- At `T` the task only fails, with the ending of the lifetime, and sends nothing. -/
def Barred {α : Type} (t : Task Session α) : Prop :=
  ∀ s : Session, s.now = T → (t s).1 = .failed (.ended e) ∧ (t s).2.now = T ∧
    ∃ added, (t s).2.log = added ++ s.log ∧ tripsOf added = []

/-- The second task is the first one in a lifetime that ends at `T`. -/
structure Shortens {α : Type} (t t' : Task Session α) : Prop where
  /-- the first one moves the session on -/
  forward : Forward t
  /-- both are over before `T`, or the second one is stopped -/
  run : ∀ s s', Alike l base s s' → s.now < T →
    ((t s).2.now < T ∧ (t' s').1 = (t s).1 ∧ Alike l base (t s).2 (t' s').2) ∨
      ((t' s').1 = .failed (.ended e) ∧ Stopped l T base (t s).2 (t' s').2)

end TwoRuns

variable {l : Lifetime} {T : Moment} {e : Ending} {base : List (Moment × Event)} {α β τ : Type}

/-- Whatever the first session does after `T` does not matter. -/
theorem Stopped.of_precedes {s s₁ s' : Session} (h : Stopped l T base s s') (hs : s.Precedes s₁) :
    Stopped l T base s₁ s' := by
  obtain ⟨hle, hnow, added, added', hlog, hlog', htrips⟩ := h
  obtain ⟨hmono, later, hlater, hmoments⟩ := hs
  refine ⟨hle.trans hmono, hnow, later ++ added, added', ?_, hlog', ?_⟩
  · rw [hlater, hlog, List.append_assoc]
  · have hnone : (tripsOf later).filter (·.1 < T) = [] := by
      rw [List.filter_eq_nil_iff]
      intro trip htrip
      obtain ⟨x, hx, hmoment⟩ := moment_of_mem_tripsOf htrip
      have := hmoments x hx
      simpa [← hmoment] using hle.trans this
    rw [htrips, tripsOf_append, List.filter_append, hnone, List.nil_append]

/-- What the second session does at `T` does not matter either, if it sends nothing. -/
theorem Stopped.of_log_eq {s s' s₁' : Session} (h : Stopped l T base s s') (hnow : s₁'.now = T)
    {added : List (Moment × Event)} (hlog : s₁'.log = added ++ s'.log)
    (hadded : tripsOf added = []) : Stopped l T base s s₁' := by
  obtain ⟨hle, -, added₁, added', hlog₁, hlog', htrips⟩ := h
  refine ⟨hle, hnow, added₁, added ++ added', hlog₁, ?_, ?_⟩
  · rw [hlog, hlog', List.append_assoc]
  · rw [tripsOf_append, hadded, List.nil_append, htrips]

/-- The clocks of sessions that are alike show the same. -/
theorem Alike.now_eq {s s' : Session} (h : Alike l base s s') : s'.now = s.now := by
  obtain ⟨-, added, -, -, rfl⟩ := h
  rfl

/-- Two sessions that were alike just before the end of the second one. -/
theorem Alike.stopped {s s' : Session} (h : Alike l base s s') (hs : s.now < T) {moment : Moment}
    (hmoment : T ≤ moment) :
    Stopped l T base { s with now := moment } { s' with now := T } := by
  obtain ⟨-, added, hlog, hadded, rfl⟩ := h
  refine ⟨hmoment, rfl, added, _, hlog, rfl, ?_⟩
  have hall : (tripsOf added).filter (·.1 < T) = tripsOf added := by
    rw [List.filter_eq_self]
    intro trip htrip
    obtain ⟨x, hx, heq⟩ := moment_of_mem_tripsOf htrip
    have := hadded x hx
    simpa [← heq] using this.trans_lt hs
  rw [hall, tripsOf_inLifetime]

/-- Sessions stay alike when the clock moves on. -/
theorem Alike.elapsed {s s' : Session} (h : Alike l base s s') {moment : Moment}
    (hmoment : s.now ≤ moment) :
    Alike l base { s with now := moment } { s' with now := moment } := by
  obtain ⟨hblind, added, hlog, hadded, rfl⟩ := h
  exact ⟨hblind, added, hlog, fun x hx => (hadded x hx).trans hmoment, rfl⟩

/-- Sessions stay alike when both note an event, each in its lifetime. -/
theorem Alike.noted {s s' : Session} (h : Alike l base s s') (event : Event) :
    Alike l base (s.noted event) (s'.noted (event.inLifetime l)) := by
  obtain ⟨hblind, added, hlog, hadded, rfl⟩ := h
  refine ⟨hblind, (s.now, event) :: added, ?_, ?_, rfl⟩
  · rw [Session.noted, hlog, List.cons_append]
  · intro x hx
    rcases List.mem_cons.1 hx with rfl | hx
    · exact Nat.le_refl _
    · exact hadded x hx

/-! ## Barred tasks -/

namespace Barred

theorem bind {t : Task Session α} {f : α → Task Session β} (ht : Barred T e t) :
    Barred T e (t >>= f) := by
  intro s hs
  obtain ⟨ho, hrest⟩ := ht s hs
  have h : t s = (.failed (.ended e), (t s).2) := Prod.ext ho rfl
  rw [Task.bind_failed h]
  exact ⟨rfl, hrest⟩

theorem fail : Barred T e (Task.fail (.ended e) : Task Session α) :=
  fun _ hs => ⟨rfl, hs, [], rfl, rfl⟩

/-- Something may be noted before, if it takes no time. -/
theorem note_bind (event : Event) (hevent : event.request? = none) {t : Task Session α}
    (ht : Barred T e t) : Barred T e (Session.note event >>= fun _ => t) := by
  intro s hs
  obtain ⟨ho, hnow, added, hlog, hadded⟩ := ht (s.noted event) hs
  refine ⟨ho, hnow, added ++ [(s.now, event)], ?_, ?_⟩
  · rw [List.append_assoc]
    exact hlog
  · rw [tripsOf_append, hadded]
    simp [tripsOf, hevent]

/-- A wait that starts at the end of its lifetime is over at once. -/
theorem wait (hend : l.end? = some (T, e)) (millis : Nat) : Barred T e (Session.wait l millis) := by
  intro s hs
  have h : l.wait s.now millis = (T, some e) := by
    rw [Lifetime.wait, hs, Lifetime.ending?_of_end? hend]
  rw [Session.wait, h]
  exact ⟨rfl, rfl, [], rfl, rfl⟩

theorem pause (hend : l.end? = some (T, e)) (b : Backoff) (attempt : Nat) :
    Barred T e (Session.pause l b attempt) :=
  fun s hs => wait hend _ s hs

end Barred

/-! ## Shortened tasks -/

namespace Shortens

/-- A task that depends on nothing in which the sessions differ. -/
theorem of_alike {t t' : Task Session α} (hforward : Forward t)
    (h : ∀ s s', Alike l base s s' →
      (t s).2.now = s.now ∧ (t' s').1 = (t s).1 ∧ Alike l base (t s).2 (t' s').2) :
    Shortens l T e base t t' := by
  refine ⟨hforward, fun s s' hs hlt => ?_⟩
  obtain ⟨hnow, ho, halike⟩ := h s s' hs
  exact .inl ⟨hnow.trans_lt hlt, ho, halike⟩

theorem pure (a : α) : Shortens l T e base (Pure.pure a) (Pure.pure a) :=
  of_alike (fun s => .refl s) fun _ _ hs => ⟨rfl, rfl, hs⟩

theorem fail (error : Error) :
    Shortens l T e base (Task.fail error : Task Session α) (Task.fail error) :=
  of_alike (fun s => .refl s) fun _ _ hs => ⟨rfl, rfl, hs⟩

theorem giveUp : Shortens l T e base (Task.giveUp : Task Session α) Task.giveUp :=
  of_alike (fun s => .refl s) fun _ _ hs => ⟨rfl, rfl, hs⟩

theorem ofExcept (r : Except Error α) :
    Shortens l T e base (Task.ofExcept r) (Task.ofExcept r) := by
  cases r with
  | ok a => exact pure a
  | error error => exact fail error

/-- **One task after the other**: the second run may be stopped in either of them. -/
theorem bind {t t' : Task Session α} {f f' : α → Task Session β} (ht : Shortens l T e base t t')
    (hf : ∀ a, Shortens l T e base (f a) (f' a)) :
    Shortens l T e base (t >>= f) (t' >>= f') := by
  refine ⟨ht.forward.bind fun a => (hf a).forward, fun s s' hs hlt => ?_⟩
  rcases ht.run s s' hs hlt with ⟨hnow, ho, halike⟩ | ⟨ho, hstopped⟩
  · rcases h : t s with ⟨a | error | _, s₁⟩ <;> rw [h] at hnow ho halike
    · have h' : t' s' = (.done a, (t' s').2) := Prod.ext ho rfl
      rw [Task.bind_done h, Task.bind_done h']
      exact (hf a).run _ _ halike hnow
    · have h' : t' s' = (.failed error, (t' s').2) := Prod.ext ho rfl
      rw [Task.bind_failed h, Task.bind_failed h']
      exact .inl ⟨hnow, rfl, halike⟩
    · have h' : t' s' = (.unfinished, (t' s').2) := Prod.ext ho rfl
      rw [Task.bind_unfinished h, Task.bind_unfinished h']
      exact .inl ⟨hnow, rfl, halike⟩
  · have h' : t' s' = (.failed (.ended e), (t' s').2) := Prod.ext ho rfl
    rw [Task.bind_failed h']
    refine .inr ⟨rfl, ?_⟩
    -- the first run goes on from where the second one was stopped
    rcases h : t s with ⟨a | error | _, s₁⟩ <;> rw [h] at hstopped
    · rw [Task.bind_done h]
      exact hstopped.of_precedes ((hf a).forward s₁)
    · rwa [Task.bind_failed h]
    · rwa [Task.bind_unfinished h]

/-- **A failure that is looked at**: at the end of its lifetime the second run looks at the ending,
and has to be barred by it. -/
theorem attempt_bind {t t' : Task Session α} {f f' : Except Error α → Task Session β}
    (ht : Shortens l T e base t t') (hf : ∀ r, Shortens l T e base (f r) (f' r))
    (hbarred : Barred T e (f' (.error (.ended e)))) :
    Shortens l T e base (t.attempt >>= f) (t'.attempt >>= f') := by
  refine ⟨ht.forward.attempt.bind fun r => (hf r).forward, fun s s' hs hlt => ?_⟩
  rcases ht.run s s' hs hlt with ⟨hnow, ho, halike⟩ | ⟨ho, hstopped⟩
  · rcases h : t s with ⟨a | error | _, s₁⟩ <;> rw [h] at hnow ho halike
    · have h' : t' s' = (.done a, (t' s').2) := Prod.ext ho rfl
      rw [Task.bind_done (Task.attempt_done h), Task.bind_done (Task.attempt_done h')]
      exact (hf _).run _ _ halike hnow
    · have h' : t' s' = (.failed error, (t' s').2) := Prod.ext ho rfl
      rw [Task.bind_done (Task.attempt_failed h), Task.bind_done (Task.attempt_failed h')]
      exact (hf _).run _ _ halike hnow
    · have h' : t' s' = (.unfinished, (t' s').2) := Prod.ext ho rfl
      rw [Task.bind_unfinished (Task.attempt_unfinished h),
        Task.bind_unfinished (Task.attempt_unfinished h')]
      exact .inl ⟨hnow, rfl, halike⟩
  · have h' : t' s' = (.failed (.ended e), (t' s').2) := Prod.ext ho rfl
    rw [Task.bind_done (Task.attempt_failed h')]
    obtain ⟨hfailed, hnow, added, hlog, hadded⟩ := hbarred _ hstopped.now_eq
    refine .inr ⟨hfailed, .of_log_eq ?_ hnow hlog hadded⟩
    rcases h : t s with ⟨a | error | _, s₁⟩ <;> rw [h] at hstopped
    · rw [Task.bind_done (Task.attempt_done h)]
      exact hstopped.of_precedes ((hf _).forward s₁)
    · rw [Task.bind_done (Task.attempt_failed h)]
      exact hstopped.of_precedes ((hf _).forward s₁)
    · rwa [Task.bind_unfinished (Task.attempt_unfinished h)]

/-- A task that goes on with something that the two sessions have in common. -/
theorem state_bind (g : Session → β) (f f' : β → Task Session α)
    (hg : ∀ s s', Alike l base s s' → g s' = g s)
    (hf : ∀ b, Shortens l T e base (f b) (f' b)) :
    Shortens l T e base (Task.state >>= fun s => f (g s)) (Task.state >>= fun s => f' (g s)) := by
  refine ⟨fun s => (hf (g s)).forward s, fun s s' hs hlt => ?_⟩
  have hrun := (hf (g s)).run s s' hs hlt
  rw [Task.bind_done (Task.state_apply s), Task.bind_done (Task.state_apply s'), hg s s' hs]
  exact hrun

/-! ### Sessions -/

/-- **A wait takes its whole time before `T`, or is stopped at `T`.** -/
theorem wait (hend : l.end? = some (T, e)) (millis : Nat) :
    Shortens l T e base (Session.wait .unbounded millis) (Session.wait l millis) := by
  refine ⟨.wait _ _, fun s s' hs hlt => ?_⟩
  have hnow := hs.now_eq
  have hlive := Lifetime.ending?_eq_none_of_lt hend hlt
  have hwait : Session.wait .unbounded millis s =
      (.done (), { s with now := s.now + millis }) := rfl
  rw [hwait]
  by_cases hle : T ≤ s.now + millis
  · have hwait' : Session.wait l millis s' = (.failed (.ended e), { s' with now := T }) := by
      simp only [Session.wait, Lifetime.wait, hnow, hlive, hend, if_pos hle]
    rw [hwait']
    exact .inr ⟨rfl, hs.stopped hlt hle⟩
  · have hwait' : Session.wait l millis s' = (.done (), { s' with now := s.now + millis }) := by
      simp only [Session.wait, Lifetime.wait, hnow, hlive, hend, if_neg hle]
    rw [hwait']
    exact .inl ⟨not_le.1 hle, rfl, hs.elapsed (Nat.le_add_right _ _)⟩

theorem pause (hend : l.end? = some (T, e)) (b : Backoff) (attempt : Nat) :
    Shortens l T e base (Session.pause .unbounded b attempt) (Session.pause l b attempt) := by
  refine state_bind (fun s => (b.delay s.surroundings.draw attempt).millis) _ _ ?_ (wait hend)
  rintro s s' ⟨-, added, -, -, rfl⟩
  rfl

/-- Noting something else than a request. -/
theorem note {event : Event} (hevent : event.request? = none) :
    Shortens l T e base (Session.note event) (Session.note event) := by
  refine of_alike (fun s => ⟨Nat.le_refl _, [(s.now, event)], rfl, by simp⟩) fun s s' hs => ?_
  have := hs.noted event
  rw [Event.inLifetime_of_request?_eq_none hevent] at this
  exact ⟨rfl, rfl, this⟩

/-- A request is sent in either lifetime, and brings the same. -/
theorem send (r : Request) :
    Shortens l T e base (Session.send r) (Session.send (r.withLifetime l)) := by
  refine of_alike (fun s => ⟨Nat.le_refl _, [(s.now, .sent r)], rfl, by simp⟩) fun s s' hs => ?_
  have hnoted := hs.noted (.sent r)
  obtain ⟨hblind, added, hlog, hadded, rfl⟩ := hs
  refine ⟨rfl, congrArg Outcome.done (hblind s.trips r l), hblind, ?_⟩
  obtain ⟨-, added', hlog', hadded', heq⟩ := hnoted
  exact ⟨added', hlog', hadded', congrArg (fun s => { s with trips := s.trips + 1 }) heq⟩

/-- A change of what the sessions have in common, at no time. -/
theorem update {f : Session → Session}
    (hf : ∀ (s : Session) (log : List (Moment × Event)), (f s).surroundings = s.surroundings ∧
      (f s).now = s.now ∧ (f s).log = s.log ∧ f { s with log } = { f s with log }) :
    Shortens l T e base (Task.update f) (Task.update f) := by
  refine of_alike (fun s => ?_) fun s s' hs => ?_
  · obtain ⟨-, hnow, hlog, -⟩ := hf s s.log
    exact .of_log_eq hnow.ge hlog
  · obtain ⟨hblind, added, hlog, hadded, rfl⟩ := hs
    obtain ⟨hsurroundings, hnow, hlogs, hcommute⟩ :=
      hf s ((added.map fun x => (x.1, x.2.inLifetime l)) ++ base)
    refine ⟨hnow, rfl, ?_, added, hlogs.trans hlog, ?_, hcommute⟩
    · rwa [Task.update_apply, hsurroundings]
    · rwa [Task.update_apply, hnow]

end Shortens

end CloudClient
