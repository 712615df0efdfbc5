import CloudClient.Context
import Mathlib.Order.Bounds.Basic

/-!
# What contexts come from

Contexts are made from each other, tokens are canceled, and time passes, in any order. A context
knows little of this: it has the tokens of its own path and one deadline. That this is enough is
what this file is about.

* `Lineage` keeps the books: which context was made from which, which deadline was asked for it, and
  which contexts were canceled. It knows nothing of tokens, and inherits nothing.
* `Lineage.OnPath` — the contexts that a context comes from, itself included.
* `Matches` — contexts and books tell the same: a context has the tokens of its path, and the
  earliest deadline that was asked for on it. Every step keeps this (`Matches.step`), so it holds
  after any steps (`matches_run`).
-/

namespace CloudClient

/-! ## Steps -/

/-- What can be done with contexts. A context is known by the number of those made before it. -/
inductive ContextStep where
  /-- makes a context that comes from no other -/
  | background
  /-- makes a context that can be canceled on its own -/
  | withCancel (parent : Nat)
  /-- makes a context that ends at a moment at the latest -/
  | withDeadline (parent : Nat) (moment : Moment)
  /-- makes a context that ends after a span of time at the latest -/
  | withTimeout (parent : Nat) (span : Duration)
  /-- cancels the token of a context -/
  | cancel (context : Nat)
  /-- lets time pass -/
  | advance (millis : Nat)

/-- The contexts that were made, the earliest one first, and their timeline. -/
structure Contexts where
  /-- the clock and the tokens -/
  timeline : Timeline
  /-- the contexts -/
  all : List Context

namespace Contexts

/-- No contexts yet. -/
def start : Contexts := ⟨.start, []⟩

/-- The contexts with a new one, and the timeline after it was made. -/
def add (s : Contexts) (made : Context × Timeline) : Contexts := ⟨made.2, s.all ++ [made.1]⟩

/-- Makes a context from the one with this number, if there is one. -/
def derive (s : Contexts) (parent : Nat) (make : Context → Timeline → Context × Timeline) :
    Contexts :=
  match s.all[parent]? with
  | some c => s.add (make c s.timeline)
  | none => s

/-- The contexts after a step. -/
def step (s : Contexts) : ContextStep → Contexts
  | .background => s.add s.timeline.background
  | .withCancel parent => s.derive parent Timeline.withCancel
  | .withDeadline parent moment => s.derive parent (Timeline.withDeadline moment)
  | .withTimeout parent span => s.derive parent (Timeline.withTimeout span)
  | .cancel context =>
    match s.all[context]? with
    | some c => { s with timeline := s.timeline.cancel c }
    | none => s
  | .advance millis => { s with timeline := s.timeline.advance millis }

/-- The contexts after steps in turn. -/
def run (steps : List ContextStep) : Contexts := steps.foldl step start

/-- How a context has ended, if it has. -/
def ending? (s : Contexts) (c : Context) : Option Ending := s.timeline.ending? c

end Contexts

/-! ## The books -/

/-- Where a context comes from. -/
structure Origin where
  /-- the context that it was made from, if there is one -/
  parent : Option Nat
  /-- the deadline that was asked for it, if there is one that the clock can show -/
  deadline : Option Moment

/-- What is known of contexts without looking at one. -/
structure Lineage where
  /-- how much time has passed -/
  now : Moment
  /-- where each context comes from -/
  origins : List Origin
  /-- the contexts that were canceled on their own -/
  canceled : List Nat

namespace Lineage

/-- Nothing has happened. -/
def start : Lineage := ⟨0, [], []⟩

/-- The lineage with one more context. -/
def add (f : Lineage) (o : Origin) : Lineage := { f with origins := f.origins ++ [o] }

/-- The lineage with one more context that comes from this one, if there is one. -/
def derive (f : Lineage) (parent : Nat) (deadline : Option Moment) : Lineage :=
  if parent < f.origins.length then f.add ⟨some parent, deadline⟩ else f

/-- The deadline that a span of time asks for; none if the clock can not show it. -/
def deadlineAfter (f : Lineage) (span : Duration) : Option Moment :=
  if span.seconds + f.now / 1000 < Timeline.secondLimit then some (f.now + span.millis) else none

/-- The lineage after a step. -/
def step (f : Lineage) : ContextStep → Lineage
  | .background => f.add ⟨none, none⟩
  | .withCancel parent => f.derive parent none
  | .withDeadline parent moment => f.derive parent (some moment)
  | .withTimeout parent span => f.derive parent (f.deadlineAfter span)
  | .cancel context =>
    if context < f.origins.length then { f with canceled := context :: f.canceled } else f
  | .advance millis => { f with now := f.now + millis }

/-- The lineage after steps in turn. -/
def run (steps : List ContextStep) : Lineage := steps.foldl step start

/-- The second context is the first one, or the first one comes from it. -/
inductive OnPath (f : Lineage) : Nat → Nat → Prop
  | self (i : Nat) : OnPath f i i
  | up {i p j : Nat} {o : Origin} (ho : f.origins[i]? = some o) (hp : o.parent = some p)
    (hj : OnPath f p j) : OnPath f i j

/-- The deadlines that were asked for on the path of a context. -/
def requested (f : Lineage) (i : Nat) : Set Moment :=
  {m | ∃ j o, f.OnPath i j ∧ f.origins[j]? = some o ∧ o.deadline = some m}

/-- Was anything canceled on the path of a context? -/
def IsCanceled (f : Lineage) (i : Nat) : Prop := ∃ j, f.OnPath i j ∧ j ∈ f.canceled

end Lineage

/-- The moment is the earliest of these; there is no moment if there are none. -/
def IsEarliest : Option Moment → Set Moment → Prop
  | none, s => s = ∅
  | some m, s => IsLeast s m

namespace IsEarliest

variable {d : Option Moment} {s : Set Moment} {m : Moment}

/-- No moment is asked for besides others. -/
theorem none_union (h : IsEarliest d s) : IsEarliest d ({m | none = some m} ∪ s) := by
  simpa using h

/-- A moment is asked for besides others. -/
theorem some_union (h : IsEarliest d s) (m : Moment) :
    IsEarliest (some (earlier d m)) ({e | some m = some e} ∪ s) := by
  have hm : {e | some m = some e} = {m} := by ext e; simp [eq_comm]
  rw [hm]
  cases d with
  | none =>
    obtain rfl : s = ∅ := h
    simp [IsEarliest, earlier]
  | some e =>
    have h : IsLeast s e := h
    simpa [IsEarliest, earlier, min_comm e m] using (isLeast_singleton (a := m)).union h

/-- A moment has come by another one if one of these has. -/
theorem any_le_iff (h : IsEarliest d s) (now : Moment) :
    d.any (· ≤ now) ↔ ∃ m, IsLeast s m ∧ m ≤ now := by
  cases d with
  | none =>
    obtain rfl : s = ∅ := h
    simp [IsLeast]
  | some e =>
    have h : IsLeast s e := h
    simp only [Option.any_some, decide_eq_true_eq]
    exact ⟨fun he => ⟨e, h, he⟩, fun ⟨m, hm, he⟩ => h.unique hm ▸ he⟩

/-- If one of the moments has come by another one, so has the earliest. -/
theorem any_le_of_mem (h : IsEarliest d s) {now : Moment} (hm : m ∈ s) (hle : m ≤ now) :
    d.any (· ≤ now) := by
  cases d with
  | none =>
    obtain rfl : s = ∅ := h
    exact absurd hm (Set.notMem_empty m)
  | some e =>
    have h : IsLeast s e := h
    simpa using (h.2 hm).trans hle

end IsEarliest

/-! ## Paths -/

namespace Lineage

variable {f : Lineage} {o : Origin} {i j k : Nat}

/-- Contexts come from contexts that were made before them. -/
def Ordered (f : Lineage) : Prop :=
  ∀ (i : Nat) (o : Origin) (p : Nat), f.origins[i]? = some o → o.parent = some p → p < i

theorem OnPath.trans (hij : f.OnPath i j) (hjk : f.OnPath j k) : f.OnPath i k := by
  induction hij with
  | self => exact hjk
  | up ho hp _ ih => exact .up ho hp (ih hjk)

theorem OnPath.le (hf : f.Ordered) (h : f.OnPath i j) : j ≤ i := by
  induction h with
  | self => exact Nat.le_refl _
  | up ho hp _ ih => exact ih.trans (hf _ _ _ ho hp).le

/-- No two contexts come from each other. -/
theorem OnPath.eq_of_onPath (hf : f.Ordered) (hij : f.OnPath i j) (hji : f.OnPath j i) : i = j :=
  (hji.le hf).antisymm (hij.le hf)

theorem origins_add_of_lt (hi : i < f.origins.length) :
    (f.add o).origins[i]? = f.origins[i]? :=
  List.getElem?_append_left hi

theorem origins_add_self : (f.add o).origins[f.origins.length]? = some o := by
  simp [add]

theorem Ordered.add (hf : f.Ordered) (ho : ∀ p, o.parent = some p → p < f.origins.length) :
    (f.add o).Ordered := by
  intro i o' p hi hp
  rcases Nat.lt_trichotomy i f.origins.length with h | rfl | h
  · exact hf i o' p (origins_add_of_lt h ▸ hi) hp
  · rw [origins_add_self, Option.some.injEq] at hi
    exact ho p (hi ▸ hp)
  · have hlen : (f.origins ++ [o]).length ≤ i := by simpa using Nat.succ_le_of_lt h
    simp [Lineage.add, List.getElem?_eq_none hlen] at hi

/-- A new context leaves the paths of the others as they are. -/
theorem onPath_add_of_lt (hf : f.Ordered) (hi : i < f.origins.length) :
    (f.add o).OnPath i j ↔ f.OnPath i j := by
  constructor
  · intro h
    induction h with
    | self => exact .self _
    | up ho hp _ ih =>
      rw [origins_add_of_lt hi] at ho
      exact .up ho hp (ih ((hf _ _ _ ho hp).trans hi))
  · intro h
    induction h with
    | self => exact .self _
    | up ho hp _ ih =>
      exact .up ((origins_add_of_lt hi).trans ho) hp (ih ((hf _ _ _ ho hp).trans hi))

/-- On the path of a new context are itself and the path of the one that it comes from. -/
theorem onPath_add_self (hf : f.Ordered) (ho : ∀ p, o.parent = some p → p < f.origins.length) :
    (f.add o).OnPath f.origins.length j ↔
      j = f.origins.length ∨ ∃ p, o.parent = some p ∧ f.OnPath p j := by
  constructor
  · intro h
    cases h with
    | self => exact .inl rfl
    | up ho' hp hj =>
      rw [origins_add_self, Option.some.injEq] at ho'
      subst ho'
      exact .inr ⟨_, hp, (onPath_add_of_lt hf (ho _ hp)).1 hj⟩
  · rintro (rfl | ⟨p, hp, hj⟩)
    · exact .self _
    · exact .up origins_add_self hp ((onPath_add_of_lt hf (ho p hp)).2 hj)

/-- Paths depend on where the contexts come from alone. -/
theorem onPath_congr {f' : Lineage} (h : f'.origins = f.origins) :
    f'.OnPath i j ↔ f.OnPath i j := by
  constructor <;> intro hij <;> induction hij with
  | self => exact .self _
  | up ho hp _ ih => exact .up (by rwa [h] at *) hp ih

theorem requested_congr {f' : Lineage} (h : f'.origins = f.origins) :
    f'.requested i = f.requested i := by
  simp only [requested, onPath_congr h, h]

theorem requested_add_of_lt (hf : f.Ordered) (hi : i < f.origins.length) :
    (f.add o).requested i = f.requested i := by
  ext m
  simp only [requested, Set.mem_ofPred_eq, onPath_add_of_lt hf hi]
  refine exists_congr fun j => exists_congr fun o' => and_congr_right fun hj => ?_
  rw [origins_add_of_lt ((hj.le hf).trans_lt hi)]

/-- The deadlines on the path of a new context are its own and those on the path of the one that it
comes from. -/
theorem requested_add_self (hf : f.Ordered) (ho : ∀ p, o.parent = some p → p < f.origins.length) :
    (f.add o).requested f.origins.length =
      {m | o.deadline = some m} ∪ {m | ∃ p, o.parent = some p ∧ m ∈ f.requested p} := by
  ext m
  simp only [requested, Set.mem_ofPred_eq, Set.mem_union, onPath_add_self hf ho]
  constructor
  · rintro ⟨j, o', rfl | ⟨p, hp, hj⟩, hj', hm⟩
    · rw [origins_add_self, Option.some.injEq] at hj'
      exact .inl (hj' ▸ hm)
    · rw [origins_add_of_lt ((hj.le hf).trans_lt (ho p hp))] at hj'
      exact .inr ⟨p, hp, j, o', hj, hj', hm⟩
  · rintro (hm | ⟨p, hp, j, o', hj, hj', hm⟩)
    · exact ⟨_, o, .inl rfl, origins_add_self, hm⟩
    · refine ⟨j, o', .inr ⟨p, hp, hj⟩, ?_, hm⟩
      rwa [origins_add_of_lt ((hj.le hf).trans_lt (ho p hp))]

end Lineage

/-! ## The books are right -/

/-- A context is as the books say. -/
structure Context.IsAs (f : Lineage) (i : Nat) (c : Context) : Prop where
  /-- its own token comes first -/
  own : c.tokens.head? = some i
  /-- it has the tokens of its path -/
  tokens : ∀ j, j ∈ c.tokens ↔ f.OnPath i j
  /-- it has the earliest deadline of its path -/
  deadline : IsEarliest c.deadline (f.requested i)

theorem Context.IsAs.congr {f f' : Lineage} {i : Nat} {c : Context} (h : c.IsAs f i)
    (hf : f'.origins = f.origins) : c.IsAs f' i where
  own := h.own
  tokens j := by rw [h.tokens, Lineage.onPath_congr hf]
  deadline := by rw [Lineage.requested_congr hf]; exact h.deadline

/-- The contexts are as the books say. -/
structure Matches (s : Contexts) (f : Lineage) : Prop where
  now : s.timeline.now = f.now
  made : s.timeline.made = f.origins.length
  length : s.all.length = f.origins.length
  ordered : f.Ordered
  contexts : ∀ (i : Nat) (c : Context), s.all[i]? = some c → c.IsAs f i
  canceled : ∀ j, j ∈ f.canceled ↔ ∃ m, (j, m) ∈ s.timeline.cancellations
  past : ∀ (j : Nat) (m : Moment), (j, m) ∈ s.timeline.cancellations → m ≤ f.now

namespace Matches

variable {s : Contexts} {f : Lineage}

theorem lt_length (h : Matches s f) {i : Nat} {c : Context} (hc : s.all[i]? = some c) :
    i < f.origins.length :=
  h.length ▸ (List.getElem?_eq_some_iff.1 hc).1

/-- A new context is as the books say, and the others stay so. -/
theorem add (h : Matches s f) {o : Origin} {c : Context}
    (ho : ∀ p, o.parent = some p → p < f.origins.length)
    (hc : c.IsAs (f.add o) f.origins.length) :
    Matches (s.add (c, s.timeline.newToken.2)) (f.add o) where
  now := h.now
  made := by simp [Contexts.add, Timeline.newToken, Lineage.add, h.made]
  length := by simp [Contexts.add, Lineage.add, h.length]
  ordered := h.ordered.add ho
  contexts i c' hc' := by
    rcases Nat.lt_trichotomy i s.all.length with hi | hi | hi
    · have hi' : i < f.origins.length := h.length ▸ hi
      obtain ⟨own, tokens, deadline⟩ := h.contexts i c'
        ((List.getElem?_append_left hi).symm.trans hc')
      refine ⟨own, fun j => ?_, ?_⟩
      · rw [tokens, Lineage.onPath_add_of_lt h.ordered hi']
      · rwa [Lineage.requested_add_of_lt h.ordered hi']
    · subst hi
      obtain rfl : c = c' := by simpa [Contexts.add] using hc'
      rwa [h.length]
    · have hlen : (s.all ++ [c]).length ≤ i := by simpa using Nat.succ_le_of_lt hi
      simp [Contexts.add, List.getElem?_eq_none hlen] at hc'
  canceled := h.canceled
  past := h.past

/-- A context that is made from another one is as the books say, if it has a new token in front of
the other's, and the earlier one of the other's deadline and the one that was asked for. -/
theorem derive (h : Matches s f) {parent : Nat} {deadline : Option Moment}
    {make : Context → Timeline → Context × Timeline}
    (hmake : ∀ c d, IsEarliest c.deadline d → ∃ d',
      make c s.timeline = (⟨s.timeline.made :: c.tokens, d'⟩, s.timeline.newToken.2) ∧
        IsEarliest d' ({m | deadline = some m} ∪ d)) :
    Matches (s.derive parent make) (f.derive parent deadline) := by
  rw [Contexts.derive, Lineage.derive]
  cases hp : s.all[parent]? with
  | none =>
    rw [if_neg (by simpa [h.length] using hp)]
    exact h
  | some c =>
    have hlt := h.lt_length hp
    have ho : ∀ p, (⟨some parent, deadline⟩ : Origin).parent = some p → p < f.origins.length := by
      rintro p ⟨⟩
      exact hlt
    obtain ⟨own, tokens, hd⟩ := h.contexts parent c hp
    obtain ⟨d', hc, hd'⟩ := hmake c _ hd
    rw [if_pos hlt]
    simp only [hc]
    refine h.add ho ⟨by simp [h.made], fun j => ?_, ?_⟩
    · simp [Lineage.onPath_add_self h.ordered ho, tokens, h.made]
    · simpa [Lineage.requested_add_self h.ordered ho] using hd'

/-- A context is canceled. -/
theorem cancel (h : Matches s f) {i : Nat} {c : Context} (hc : s.all[i]? = some c) :
    Matches { s with timeline := s.timeline.cancel c } { f with canceled := i :: f.canceled } := by
  obtain ⟨rest, htokens⟩ : ∃ rest, c.tokens = i :: rest :=
    List.head?_eq_some_iff.1 (h.contexts i c hc).own
  simp only [Timeline.cancel, htokens, Timeline.cancelAt]
  refine { h with contexts := fun j d hd => ?_, canceled := fun j => ?_, past := fun j m hm => ?_ }
  · exact (h.contexts j d hd).congr rfl
  · simp [h.canceled, exists_or]
  · rcases List.mem_cons.1 hm with hm | hm
    · obtain ⟨-, rfl⟩ := Prod.mk.inj hm
      exact h.now.le
    · exact h.past j m hm

/-- Time passes. -/
theorem advance (h : Matches s f) (millis : Nat) :
    Matches { s with timeline := s.timeline.advance millis } { f with now := f.now + millis } :=
  { h with
    now := congrArg (· + millis) h.now
    past := fun j m hm => (h.past j m hm).trans (Nat.le_add_right _ _)
    contexts := fun j d hd => (h.contexts j d hd).congr rfl }

/-- Every step keeps the books right. -/
theorem step (h : Matches s f) (a : ContextStep) : Matches (s.step a) (f.step a) := by
  cases a with
  | background =>
    refine h.add (o := ⟨none, none⟩) (by simp) ⟨by simp [h.made], fun j => ?_, ?_⟩
    · simp [Lineage.onPath_add_self h.ordered, h.made]
    · simp [Lineage.requested_add_self h.ordered, IsEarliest]
  | withCancel parent => exact h.derive fun c d hd => ⟨c.deadline, rfl, hd.none_union⟩
  | withDeadline parent moment => exact h.derive fun c d hd => ⟨_, rfl, hd.some_union moment⟩
  | withTimeout parent span =>
    refine h.derive fun c d hd => ?_
    rw [Timeline.withTimeout, Timeline.after?, Lineage.deadlineAfter, h.now]
    by_cases hspan : span.seconds + f.now / 1000 < Timeline.secondLimit
    · rw [if_pos hspan]
      exact ⟨_, rfl, hd.some_union _⟩
    · rw [if_neg hspan]
      exact ⟨c.deadline, rfl, hd.none_union⟩
  | cancel context =>
    rw [Contexts.step.eq_def, Lineage.step.eq_def]
    dsimp only
    cases hc : s.all[context]? with
    | none =>
      rw [if_neg (by simpa [h.length] using hc)]
      exact h
    | some c =>
      rw [if_pos (h.lt_length hc)]
      exact h.cancel hc
  | advance millis => exact h.advance millis

end Matches

/-- After any steps the contexts are as the books say. -/
theorem matches_run (steps : List ContextStep) :
    Matches (Contexts.run steps) (Lineage.run steps) := by
  have hstart : Matches .start .start := ⟨rfl, rfl, rfl, by simp [Lineage.Ordered, Lineage.start],
    by simp [Contexts.start], by simp [Lineage.start, Contexts.start, Timeline.start],
    by simp [Contexts.start, Timeline.start]⟩
  rw [Contexts.run, Lineage.run]
  generalize Contexts.start = s at hstart ⊢
  generalize Lineage.start = f at hstart ⊢
  induction steps generalizing s f with
  | nil => exact hstart
  | cons a steps ih => exact ih _ _ (hstart.step a)

end CloudClient
