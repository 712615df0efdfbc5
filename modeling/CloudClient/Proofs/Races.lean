import CloudClient.Proofs.ContextLives
import CloudClient.Proofs.Pauses

/-!
# Races

Work that is run within a lifetime races with the two ends of the lifetime. Nobody looks at the race
all the time. Whoever runs the work is woken when a token is canceled, when the deadline comes and
when the work is done, and perhaps more often; then the two ends are looked at, in any order, and
the work after them. Who comes first must not depend on how often and in which order one looks.

* `Lifetime.look` — what is seen of the race at a moment.
* `Lifetime.Races` — what can come of it, whenever one looks.
* `Lifetime.races_iff` — if the token is canceled at a moment of its own, this is always what comes
  first.
* `Lifetime.Runs` — the same for work that is not started in a lifetime that is over;
  `Lifetime.runs_iff` says that a wait obeys the same law.
* `Contexts.run_races` — hence who wins, for the contexts after any steps.
-/

namespace CloudClient

/-- Which end of a lifetime is looked at first. -/
inductive Glance where
  | tokenFirst
  | deadlineFirst

namespace Lifetime

/-! ## Races -/

/-- The end of the lifetime that is seen at a moment, if its token is canceled by then or not. -/
def seen? (l : Lifetime) (order : Glance) (isCanceled : Bool) (now : Moment) : Option Ending :=
  let canceled := if isCanceled then some Ending.canceled else none
  let exceeded := if l.deadline.any (· ≤ now) then some Ending.deadlineExceeded else none
  match order with
  | .tokenFirst => canceled.or exceeded
  | .deadlineFirst => exceeded.or canceled

/-- A look at the race with work that is done at the moment `ready`: it is won by the end that is
seen; only if none is seen, it may be won by the work, and then nothing has ended it. -/
def look (l : Lifetime) (ready : Moment) (order : Glance) (isCanceled : Bool) (now : Moment) :
    Option (Option Ending) :=
  match l.seen? order isCanceled now with
  | some e => some (some e)
  | none => if ready ≤ now then some none else none

/-- At this moment something is going to happen that wakes up whoever runs the work. -/
def Wakes (l : Lifetime) (ready : Moment) (isCanceled : Bool) (now moment : Moment) : Prop :=
  isCanceled = false ∧ l.canceled = some moment ∨
    now < moment ∧ (l.deadline = some moment ∨ ready = moment)

/-- From the moment `now` on, when the token is canceled or not, the race ends at this moment and in
this way. -/
inductive Races (l : Lifetime) (ready : Moment) :
    Bool → Moment → Moment × Option Ending → Prop
  | decided {isCanceled : Bool} {now : Moment} {winner : Option Ending} (order : Glance)
      (hlook : l.look ready order isCanceled now = some winner) :
      Races l ready isCanceled now (now, winner)
  | canceled {now : Moment} {result : Moment × Option Ending} (h : l.canceled = some now)
      (hrest : Races l ready true now result) : Races l ready false now result
  | later {isCanceled : Bool} {now moment : Moment} {result : Moment × Option Ending}
      (order : Glance) (hlook : l.look ready order isCanceled now = none) (hle : now ≤ moment)
      (hwakes : ∀ m, l.Wakes ready isCanceled now m → moment ≤ m)
      (hrest : Races l ready isCanceled moment result) : Races l ready isCanceled now result

variable {l : Lifetime} {ready now moment : Moment} {order : Glance} {isCanceled : Bool}

/-- Without an end of the lifetime the race goes on, unless the work is done. -/
theorem look_eq_none :
    l.look ready order isCanceled now = none ↔
      isCanceled = false ∧ (∀ d ∈ l.deadline, now < d) ∧ now < ready := by
  obtain ⟨canceled, _ | d⟩ := l <;> cases order <;> cases isCanceled <;>
    simp [look, seen?] <;> grind

/-- **Inversion for a look**: who has won the race. -/
theorem look_inv {winner : Option Ending} (h : l.look ready order isCanceled now = some winner) :
    (winner = some .canceled ∧ isCanceled = true) ∨
      (winner = some .deadlineExceeded ∧ ∃ d, l.deadline = some d ∧ d ≤ now) ∨
      (winner = none ∧ isCanceled = false ∧ (∀ d ∈ l.deadline, now < d) ∧ ready ≤ now) := by
  obtain ⟨canceled, _ | d⟩ := l <;> cases order <;> cases isCanceled <;>
    simp [look, seen?] at h ⊢ <;> grind

/-! ## What comes first -/

/-- When a race with work that is done at the moment `ready` ends, and in which way: it is ended by
what comes first. -/
def finish (l : Lifetime) (ready : Moment) : Moment × Option Ending :=
  match l.end? with
  | none => (ready, none)
  | some (moment, ending) => if moment ≤ ready then (moment, some ending) else (ready, none)

/-- The token is canceled at a moment at which nothing else happens. -/
def CancelsApart (l : Lifetime) (ready : Moment) : Prop :=
  ∀ c ∈ l.canceled, l.deadline ≠ some c ∧ c ≠ ready

theorem wait_eq_finish (h : l.ending? now = none) (millis : Nat) :
    l.wait now millis = l.finish (now + millis) := by
  rw [wait, h]
  rfl

theorem finish_canceled (hc : l.canceled = some moment) (hd : ∀ d ∈ l.deadline, moment < d)
    (hle : moment ≤ ready) : l.finish ready = (moment, some .canceled) := by
  obtain ⟨_ | c, _ | d⟩ := l <;> simp [finish, end?] at hc hd ⊢ <;> grind

theorem finish_deadline (hd : l.deadline = some moment) (hc : ∀ c ∈ l.canceled, moment < c)
    (hle : moment ≤ ready) : l.finish ready = (moment, some .deadlineExceeded) := by
  obtain ⟨_ | c, _ | d⟩ := l <;> simp [finish, end?] at hc hd ⊢ <;> grind

theorem finish_ready (hc : ∀ c ∈ l.canceled, ready < c) (hd : ∀ d ∈ l.deadline, ready < d) :
    l.finish ready = (ready, none) := by
  obtain ⟨_ | c, _ | d⟩ := l <;> simp [finish, end?] at hc hd ⊢ <;> grind

/-- Something comes first: the cancellation, the deadline or the work. -/
theorem first_cases (hapart : l.CancelsApart ready) :
    (∃ c, l.canceled = some c ∧ c ≤ ready ∧ ∀ d ∈ l.deadline, c < d) ∨
      (∃ d, l.deadline = some d ∧ d ≤ ready ∧ ∀ c ∈ l.canceled, d < c) ∨
      ((∀ c ∈ l.canceled, ready < c) ∧ ∀ d ∈ l.deadline, ready < d) := by
  obtain ⟨_ | c, _ | d⟩ := l <;> simp [CancelsApart] at hapart ⊢ <;> grind

/-- The invariant of a race: nothing has happened yet that was not looked at. -/
structure Ahead (l : Lifetime) (ready : Moment) (isCanceled : Bool) (now : Moment) : Prop where
  /-- the token is canceled now or later -/
  canceled : if isCanceled then l.canceled = some now else ∀ c ∈ l.canceled, now ≤ c
  /-- the deadline comes now or later -/
  deadline : ∀ d ∈ l.deadline, now ≤ d
  /-- the work is done now or later -/
  ready : now ≤ ready

/-- **Every race ends with what comes first.** -/
theorem Races.eq_finish {result : Moment × Option Ending} (h : l.Races ready isCanceled now result)
    (hahead : l.Ahead ready isCanceled now) (hapart : l.CancelsApart ready) :
    result = l.finish ready := by
  induction h with
  | @decided isCanceled now winner order hlook =>
    obtain ⟨hcanceled, hdeadline, hready⟩ := hahead
    rcases look_inv hlook with ⟨rfl, rfl⟩ | ⟨rfl, d, hd, hle⟩ | ⟨rfl, rfl, hlive, hle⟩
    · have hnow : l.canceled = some now := hcanceled
      refine (finish_canceled hnow (fun d hd => ?_) hready).symm
      exact Nat.lt_of_le_of_ne (hdeadline d hd) fun heq => (hapart now hnow).1 (heq ▸ hd)
    · obtain rfl : d = now := Nat.le_antisymm hle (hdeadline d hd)
      refine (finish_deadline hd (fun c hc => ?_) hready).symm
      have hne : d ≠ c := fun heq => (hapart c hc).1 (heq ▸ hd)
      cases isCanceled with
      | true => exact absurd (Option.some.inj (hcanceled.symm.trans hc)) hne
      | false => exact Nat.lt_of_le_of_ne (hcanceled c hc) hne
    · obtain rfl : ready = now := Nat.le_antisymm hle hready
      exact (finish_ready (fun c hc => Nat.lt_of_le_of_ne (hcanceled c hc) (hapart c hc).2.symm)
        hlive).symm
  | canceled hnow _ ih => exact ih ⟨hnow, hahead.deadline, hahead.ready⟩
  | later order hlook hle hwakes _ ih =>
    -- whatever is still to come wakes, so that time does not pass beyond it
    obtain ⟨rfl, hlive, hready⟩ := look_eq_none.1 hlook
    exact ih ⟨fun c hc => hwakes c (.inl ⟨rfl, hc⟩),
      fun d hd => hwakes d (.inr ⟨hlive d hd, .inl hd⟩), hwakes ready (.inr ⟨hready, .inr rfl⟩)⟩

/-- A race that has not ended sleeps until a moment before which nothing happens. -/
theorem Races.asleep {result : Moment × Option Ending} (hlive : l.ending? now = none)
    (hlt : now < ready) (hle : now ≤ moment) (hc : ∀ c ∈ l.canceled, moment ≤ c)
    (hd : ∀ d ∈ l.deadline, moment ≤ d) (hready : moment ≤ ready)
    (hrest : l.Races ready false moment result) : l.Races ready false now result := by
  have hlook : l.look ready .tokenFirst false now = none :=
    look_eq_none.2 ⟨rfl, (ending?_eq_none_iff.1 hlive).2, hlt⟩
  refine .later .tokenFirst hlook hle ?_ hrest
  rintro m (⟨-, hm⟩ | ⟨-, hm | rfl⟩)
  · exact hc m hm
  · exact hd m hm
  · exact hready

/-- **There is a race that ends with what comes first**: the one that is looked at only when
somebody is woken. -/
theorem races_finish (hlive : l.ending? now = none) (hle : now ≤ ready)
    (hapart : l.CancelsApart ready) : l.Races ready false now (l.finish ready) := by
  obtain ⟨hcanceled, hdeadline⟩ := ending?_eq_none_iff.1 hlive
  rcases first_cases hapart with ⟨c, hc, hcready, hd⟩ | ⟨d, hd, hdready, hc⟩ | ⟨hc, hd⟩
  · rw [finish_canceled hc hd hcready]
    have hnow := hcanceled c hc
    refine .asleep hlive (Nat.lt_of_lt_of_le hnow hcready) hnow.le ?_ (fun d h => (hd d h).le)
      hcready (.canceled hc (.decided .tokenFirst rfl))
    exact fun c' hc' => (Option.some.inj (hc.symm.trans hc')).le
  · rw [finish_deadline hd hc hdready]
    have hnow := hdeadline d hd
    have hlook : l.look ready .tokenFirst false d = some (some .deadlineExceeded) := by
      simp [look, seen?, hd]
    refine .asleep hlive (Nat.lt_of_lt_of_le hnow hdready) hnow.le (fun c h => (hc c h).le) ?_
      hdready (.decided .tokenFirst hlook)
    exact fun d' hd' => (Option.some.inj (hd.symm.trans hd')).le
  · rw [finish_ready hc hd]
    have hlook : l.look ready .tokenFirst false ready = some none := by
      have hnone : ¬ l.deadline.any (· ≤ ready) := by simpa [Option.any_eq_true] using hd
      simp [look, seen?, hnone]
    rcases Nat.eq_or_lt_of_le hle with rfl | hlt
    · exact .decided .tokenFirst hlook
    · exact .asleep hlive hlt hle (fun c h => (hc c h).le) (fun d h => (hd d h).le) (Nat.le_refl _)
        (.decided .tokenFirst hlook)

/-- **Who wins a race** does not depend on when it is looked at, and in which order. -/
theorem races_iff (hlive : l.ending? now = none) (hle : now ≤ ready) (hapart : l.CancelsApart ready)
    {result : Moment × Option Ending} :
    l.Races ready false now result ↔ result = l.finish ready := by
  obtain ⟨hcanceled, hdeadline⟩ := ending?_eq_none_iff.1 hlive
  have hahead : l.Ahead ready false now :=
    ⟨fun c hc => (hcanceled c hc).le, fun d hd => (hdeadline d hd).le, hle⟩
  refine ⟨fun h => h.eq_finish hahead hapart, ?_⟩
  rintro rfl
  exact races_finish hlive hle hapart

/-! ## Work -/

/-- How work ends that is run within a lifetime. -/
structure Ran where
  /-- when -/
  moment : Moment
  /-- how the lifetime has ended it, if it has -/
  ending : Option Ending
  /-- whether it was started -/
  isStarted : Bool

/-- Runs work from the moment `now` on, which is done by itself at the moment `ready`. It is not
started if the lifetime is over. -/
inductive Runs (l : Lifetime) (ready now : Moment) : Ran → Prop
  | refused {e : Ending} (h : l.ending? now = some e) : Runs l ready now ⟨now, some e, false⟩
  | started {result : Moment × Option Ending} (h : l.ending? now = none)
      (hrace : l.Races ready false now result) : Runs l ready now ⟨result.1, result.2, true⟩

/-- **Work is run as a wait goes on**, but that it is not started in a lifetime that is over. -/
theorem runs_iff {millis : Nat} (hapart : l.CancelsApart (now + millis)) {ran : Ran} :
    l.Runs (now + millis) now ran ↔
      ran = ⟨(l.wait now millis).1, (l.wait now millis).2, (l.ending? now).isNone⟩ := by
  cases hnow : l.ending? now with
  | some e =>
    have hwait : l.wait now millis = (now, some e) := by rw [wait, hnow]
    rw [hwait]
    constructor
    · rintro (h | ⟨h, -⟩)
      · obtain rfl := Option.some.inj (hnow.symm.trans h)
        rfl
      · rw [hnow] at h
        cases h
    · rintro rfl
      exact .refused hnow
  | none =>
    rw [wait_eq_finish hnow]
    constructor
    · rintro (h | ⟨-, hrace⟩)
      · rw [hnow] at h
        cases h
      · rw [(races_iff hnow (Nat.le_add_right _ _) hapart).1 hrace]
        rfl
    · rintro rfl
      exact .started hnow (races_finish hnow (Nat.le_add_right _ _) hapart)

/-- What ends a wait ends the lifetime. -/
theorem ending?_wait {millis : Nat} {e : Ending} (h : (l.wait now millis).2 = some e) :
    l.ending? (l.wait now millis).1 = some e := by
  rcases l.wait_cases now millis with ⟨-, hwait⟩ | ⟨-, moment, e', hwait, he⟩ <;> rw [hwait] at h ⊢
  · cases h
  · obtain rfl := Option.some.inj h
    exact he

/-- A wait that something ends is ended by what comes first. -/
theorem wait_ended {millis : Nat} (hlive : l.ending? now = none)
    (hapart : l.CancelsApart (now + millis))
    (hend : (∃ d ∈ l.deadline, d ≤ now + millis) ∨ ∃ c ∈ l.canceled, c < now + millis) :
    ∃ m e, IsLeast {m | l.canceled = some m ∨ l.deadline = some m} m ∧
      (e = .canceled ↔ ∃ c ∈ l.canceled, ∀ d ∈ l.deadline, c < d) ∧
      l.wait now millis = (m, some e) := by
  rw [wait_eq_finish hlive]
  rcases first_cases hapart with ⟨c, hc, hle, hd⟩ | ⟨d, hd, hle, hc⟩ | ⟨hc, hd⟩
  · refine ⟨c, .canceled, ⟨.inl hc, ?_⟩, ⟨fun _ => ⟨c, hc, hd⟩, fun _ => rfl⟩,
      finish_canceled hc hd hle⟩
    rintro m (hm | hm)
    · exact (Option.some.inj (hc.symm.trans hm)).le
    · exact (hd m hm).le
  · refine ⟨d, .deadlineExceeded, ⟨.inr hd, ?_⟩, ⟨nofun, fun ⟨c, hcanceled, hlt⟩ => ?_⟩,
      finish_deadline hd hc hle⟩
    · rintro m (hm | hm)
      · exact (hc m hm).le
      · exact (Option.some.inj (hd.symm.trans hm)).le
    · exact absurd (hlt d hd) (Nat.lt_asymm (hc c hcanceled))
  · rcases hend with ⟨d, hdeadline, hle⟩ | ⟨c, hcanceled, hlt⟩
    · exact absurd (hd d hdeadline) (Nat.not_lt_of_le hle)
    · exact absurd (hc c hcanceled) (Nat.lt_asymm hlt)

end Lifetime

/-! ## Contexts -/

theorem IsEarliest.unique {a b : Option Moment} {s : Set Moment} (ha : IsEarliest a s)
    (hb : IsEarliest b s) : a = b := by
  cases a with
  | none =>
    obtain rfl : s = ∅ := ha
    cases b with
    | none => rfl
    | some m => exact absurd (show IsLeast ∅ m from hb).1 (Set.notMem_empty m)
  | some m =>
    have ha : IsLeast s m := ha
    cases b with
    | none =>
      obtain rfl : s = ∅ := hb
      exact absurd ha.1 (Set.notMem_empty m)
    | some n => exact congrArg some (ha.unique hb)

/-- The timeline in which these tokens are going to be canceled as well, at their moments. -/
def Timeline.planned (plan : List (Token × Moment)) (t : Timeline) : Timeline :=
  plan.foldr (fun p t => t.cancelAt p.1 p.2) t

theorem Timeline.now_planned (plan : List (Token × Moment)) (t : Timeline) :
    (t.planned plan).now = t.now := by
  induction plan with
  | nil => rfl
  | cons p plan ih => exact ih

/-- The first cancellation is the earliest one of any of the tokens. -/
theorem Timeline.isEarliest_firstCancellation (tokens : List Token) (t : Timeline) :
    IsEarliest (t.firstCancellation tokens) {m | ∃ j ∈ tokens, (j, m) ∈ t.cancellations} := by
  rw [firstCancellation]
  generalize hl : (t.cancellations.filter fun e => tokens.contains e.1).map (·.2) = moments
  have hmem : ∀ m, m ∈ {m | ∃ j ∈ tokens, (j, m) ∈ t.cancellations} ↔ m ∈ moments := by
    subst hl
    simp
    grind
  cases hmin : moments.min? with
  | none =>
    obtain rfl := List.min?_eq_none_iff.1 hmin
    exact Set.eq_empty_of_forall_notMem fun m hm => List.not_mem_nil ((hmem m).1 hm)
  | some m =>
    obtain ⟨hm, hle⟩ := List.min?_eq_some_iff.1 hmin
    exact ⟨(hmem m).2 hm, fun n hn => hle n ((hmem n).1 hn)⟩

/-- When tokens on the path of a context are canceled. -/
def Lineage.cancellations (f : Lineage) (t : Timeline) (i : Nat) : Set Moment :=
  {m | ∃ j, f.OnPath i j ∧ (j, m) ∈ t.cancellations}

theorem Context.IsAs.firstCancellation {f : Lineage} {i : Nat} {c : Context} (h : c.IsAs f i)
    (t : Timeline) : IsEarliest (t.firstCancellation c.tokens) (f.cancellations t i) := by
  have htokens := t.isEarliest_firstCancellation c.tokens
  simp only [h.tokens] at htokens
  exact htokens

namespace Contexts

/-- **Who wins a race in a context**, after any steps, if tokens are canceled later on. A context
that has ended ends a wait at once, and keeps work from being started. Otherwise a wait takes its
whole time, unless the deadline comes by then or a token of the path is canceled before; then it is
over at the earlier one of the two, for this reason. Work that would be done after the same time
ends in the same way, whenever and in whatever order one looks at it. What ends it is how the
context has ended at that moment. -/
theorem run_races (steps : List ContextStep) (plan : List (Token × Moment)) {i : Nat} {c : Context}
    (hc : (run steps).all[i]? = some c) (millis : Nat) {canceled deadline : Option Moment}
    (hcanceled : IsEarliest canceled
      ((Lineage.run steps).cancellations ((run steps).timeline.planned plan) i))
    (hdeadline : IsEarliest deadline ((Lineage.run steps).requested i))
    (hapart : ∀ m ∈ canceled, deadline ≠ some m ∧ m ≠ (run steps).timeline.now + millis) :
    let t := (run steps).timeline.planned plan
    let ready := t.now + millis
    -- the context has ended
    (∀ e, t.ending? c = some e → t.wait c millis = (some e, t)) ∧
    -- nothing ends it before the wait is over
    (t.ending? c = none → (∀ m ∈ deadline, ready < m) → (∀ m ∈ canceled, ready ≤ m) →
      t.wait c millis = (none, t.advance millis)) ∧
    -- something ends it by then
    (t.ending? c = none → (∃ m ∈ deadline, m ≤ ready) ∨ (∃ m ∈ canceled, m < ready) →
      ∃ m e, IsLeast {m | canceled = some m ∨ deadline = some m} m ∧
        (e = .canceled ↔ ∃ m ∈ canceled, ∀ d ∈ deadline, m < d) ∧
        t.wait c millis = (some e, { t with now := m })) ∧
    -- work that is run in the context
    (∀ ran, (t.lifetime c).Runs ready t.now ran ↔
      ran = ⟨(t.wait c millis).2.now, (t.wait c millis).1, (t.ending? c).isNone⟩) ∧
    -- the error is the one of the context
    ∀ e, (t.wait c millis).1 = some e → (t.wait c millis).2.ending? c = some e := by
  intro t ready
  have hbooks := (matches_run steps).contexts i c hc
  obtain rfl : canceled = (t.lifetime c).canceled :=
    hcanceled.unique (hbooks.firstCancellation t)
  obtain rfl : deadline = (t.lifetime c).deadline := hdeadline.unique hbooks.deadline
  have hapart : (t.lifetime c).CancelsApart ready := by
    rw [← (run steps).timeline.now_planned plan] at hapart
    exact hapart
  have hwait : t.wait c millis = (((t.lifetime c).wait t.now millis).2,
      { t with now := ((t.lifetime c).wait t.now millis).1 }) := rfl
  refine ⟨fun e he => ?_, fun hlive hd hcs => ?_, fun hlive hend => ?_, fun ran => ?_,
    fun e he => ?_⟩
  · have hlifetime : (t.lifetime c).wait t.now millis = (t.now, some e) := by
      rw [Lifetime.wait, show (t.lifetime c).ending? t.now = some e from he]
    rw [hwait, hlifetime]
  · have hafter : ∀ m ∈ (t.lifetime c).canceled, ready < m := fun m hm =>
      Nat.lt_of_le_of_ne (hcs m hm) (hapart m hm).2.symm
    rw [hwait, Lifetime.wait_eq_finish hlive, Lifetime.finish_ready hafter hd]
    rfl
  · obtain ⟨m, e, hleast, he, hlifetime⟩ := Lifetime.wait_ended hlive hapart hend
    exact ⟨m, e, hleast, he, by rw [hwait, hlifetime]⟩
  · exact Lifetime.runs_iff hapart
  · exact Lifetime.ending?_wait he

/-- A context that comes from one with a deadline, some time before the deadline. -/
def bounded : List ContextStep := [.background, .withDeadline 0 1000, .withCancel 1, .advance 400]

/-- The context that has the deadline is canceled 300 ms later: this ends work of 500 ms in the
context that comes from it, while the deadline has not come. -/
theorem run_races_overtaken :
    let t := (run bounded).timeline.planned [(1, 700)]
    t.wait ⟨[2, 1, 0], some 1000⟩ 500 = (some .canceled, { t with now := 700 }) ∧
      ∀ ran, (t.lifetime ⟨[2, 1, 0], some 1000⟩).Runs 900 400 ran ↔
        ran = ⟨700, some .canceled, true⟩ := by
  have hc : (run bounded).all[2]? = some ⟨[2, 1, 0], some 1000⟩ := by decide
  have hbooks := (matches_run bounded).contexts 2 _ hc
  have hcanceled := hbooks.firstCancellation ((run bounded).timeline.planned [(1, 700)])
  obtain ⟨-, -, hend, hruns, -⟩ :=
    run_races bounded [(1, 700)] hc 500 hcanceled hbooks.deadline (by decide)
  obtain ⟨m, e, hleast, he, hwait⟩ := hend (by decide) (.inr ⟨700, by decide, by decide⟩)
  obtain rfl : e = .canceled := he.2 ⟨700, by decide, by decide⟩
  obtain rfl : m = 700 := by
    refine hleast.unique ⟨.inl (by decide), ?_⟩
    rintro n (hn | hn) <;> cases hn <;> decide
  exact ⟨hwait, fun ran => (hruns ran).trans (by rw [hwait]; rfl)⟩

end Contexts

end CloudClient
