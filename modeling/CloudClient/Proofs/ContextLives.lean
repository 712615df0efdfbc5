import CloudClient.Proofs.Lineage

/-!
# How contexts end

A context ends when it, or a context that it comes from, is canceled, and at the earliest deadline
of its path. The books of `Lineage` tell all of this without looking at a context.

* `Timeline.ending?_eq_canceled` and `Timeline.ending?_eq_deadlineExceeded` — what ends a context,
  by its tokens and its deadline.
* `Timeline.ending?_later` — what an end can turn into as time goes on.
* `Contexts.SameBut` — what canceling a token makes different, and that no step spreads it.
* `Contexts.run_lives` — all of it together, for the contexts after any steps.
-/

namespace CloudClient

/-! ## How contexts end -/

namespace Timeline

variable {t t' : Timeline} {c : Context}

/-- By now a token of the context was canceled. -/
def HasCanceled (t : Timeline) (c : Context) : Prop :=
  ∃ token moment, (token, moment) ∈ t.cancellations ∧ token ∈ c.tokens ∧ moment ≤ t.now

theorem firstCancellation_any_le :
    (t.firstCancellation c.tokens).any (· ≤ t.now) ↔ t.HasCanceled c := by
  rw [firstCancellation]
  generalize hl : (t.cancellations.filter fun e => c.tokens.contains e.1).map (·.2) = l
  have hmem : t.HasCanceled c ↔ ∃ m ∈ l, m ≤ t.now := by
    subst hl
    simp [HasCanceled]
    grind
  rw [hmem]
  cases hm : l.min? with
  | none => simp_all [List.min?_eq_none_iff]
  | some m =>
    obtain ⟨hml, hle⟩ := List.min?_eq_some_iff.1 hm
    simp only [Option.any_some, decide_eq_true_eq]
    exact ⟨fun h => ⟨m, hml, h⟩, fun ⟨e, he, h⟩ => (hle e he).trans h⟩

/-- A context is canceled by its tokens. -/
theorem ending?_eq_canceled : t.ending? c = some .canceled ↔ t.HasCanceled c := by
  rw [← firstCancellation_any_le, ending?, Lifetime.ending?, lifetime]
  split
  · simp_all
  · split <;> simp_all

/-- A context that is not canceled ends by its deadline. -/
theorem ending?_eq_deadlineExceeded :
    t.ending? c = some .deadlineExceeded ↔ ¬ t.HasCanceled c ∧ c.deadline.any (· ≤ t.now) := by
  rw [← firstCancellation_any_le, ending?, Lifetime.ending?, lifetime]
  split
  · simp_all
  · split <;> simp_all

theorem ending?_ne_none :
    t.ending? c ≠ none ↔ t.HasCanceled c ∨ c.deadline.any (· ≤ t.now) := by
  rw [← firstCancellation_any_le, ending?, Lifetime.ending?, lifetime]
  split
  · simp_all
  · split <;> simp_all

theorem ending?_congr (h : t'.HasCanceled c ↔ t.HasCanceled c) (hnow : t'.now = t.now) :
    t'.ending? c = t.ending? c := by
  rw [← firstCancellation_any_le, ← firstCancellation_any_le, ← Bool.eq_iff_iff] at h
  rw [ending?, ending?, Lifetime.ending?, Lifetime.ending?, lifetime, lifetime, h, hnow]

/-- The clock has only moved on, and there may be more tokens and more cancellations. -/
structure Later (t t' : Timeline) : Prop where
  now : t.now ≤ t'.now
  cancellations : t.cancellations ⊆ t'.cancellations

theorem HasCanceled.later (h : t.HasCanceled c) (ht : t.Later t') : t'.HasCanceled c := by
  obtain ⟨token, moment, hmem, htoken, hle⟩ := h
  exact ⟨token, moment, ht.cancellations hmem, htoken, hle.trans ht.now⟩

/-- A context that has ended stays so; only that its deadline was exceeded may be forgotten when it
is canceled. -/
theorem ending?_later (ht : t.Later t') {e : Ending} (he : t.ending? c = some e) :
    t'.ending? c = some e ∨ e = .deadlineExceeded ∧ t'.ending? c = some .canceled := by
  simp only [ending?_eq_canceled]
  cases e with
  | canceled => exact .inl (ending?_eq_canceled.2 ((ending?_eq_canceled.1 he).later ht))
  | deadlineExceeded =>
    by_cases h : t'.HasCanceled c
    · exact .inr ⟨rfl, h⟩
    · have hle : c.deadline.any (· ≤ t'.now) := by
        have := (ending?_eq_deadlineExceeded.1 he).2
        simp only [Option.any_eq_true, decide_eq_true_eq] at this ⊢
        obtain ⟨m, hm, hle⟩ := this
        exact ⟨m, hm, hle.trans ht.now⟩
      exact .inl (ending?_eq_deadlineExceeded.2 ⟨h, hle⟩)

theorem withTimeout_snd (span : Duration) (c : Context) (t : Timeline) :
    (withTimeout span c t).2 = t.newToken.2 := by
  rw [withTimeout]
  split <;> rfl

end Timeline

namespace Contexts

variable {s s' : Contexts}

/-- The contexts are still there, at a later time. -/
structure Later (s s' : Contexts) : Prop where
  all : s.all <+: s'.all
  timeline : s.timeline.Later s'.timeline

theorem later_add {made : Context × Timeline} (h : made.2 = s.timeline.newToken.2) :
    s.Later (s.add made) := by
  refine ⟨List.prefix_append _ _, ?_⟩
  rw [add, h]
  exact ⟨Nat.le_refl _, List.Subset.refl _⟩

theorem later_refl (s : Contexts) : s.Later s :=
  ⟨List.prefix_refl _, Nat.le_refl _, List.Subset.refl _⟩

theorem later_derive {parent : Nat} {make : Context → Timeline → Context × Timeline}
    (h : ∀ c, (make c s.timeline).2 = s.timeline.newToken.2) : s.Later (s.derive parent make) := by
  rw [derive]
  split
  · exact later_add (h _)
  · exact s.later_refl

/-- No step takes a context away, or a cancellation, or time. -/
theorem later_step (s : Contexts) (a : ContextStep) : s.Later (s.step a) := by
  cases a with
  | background => exact later_add rfl
  | withCancel parent => exact later_derive fun _ => rfl
  | withDeadline parent moment => exact later_derive fun _ => rfl
  | withTimeout parent span => exact later_derive fun c => Timeline.withTimeout_snd span c _
  | cancel context =>
    rw [step]
    split
    · refine ⟨List.prefix_refl _, ?_⟩
      rw [Timeline.cancel]
      split
      · exact ⟨Nat.le_refl _, List.subset_cons_self _ _⟩
      · exact ⟨Nat.le_refl _, List.Subset.refl _⟩
    · exact s.later_refl
  | advance millis => exact ⟨List.prefix_refl _, Nat.le_add_right _ _, List.Subset.refl _⟩

theorem Later.trans {s'' : Contexts} (h : s.Later s') (h' : s'.Later s'') : s.Later s'' :=
  ⟨h.all.trans h'.all, h.timeline.now.trans h'.timeline.now,
    List.Subset.trans h.timeline.cancellations h'.timeline.cancellations⟩

/-- Nor do any steps. -/
theorem later_foldl (s : Contexts) (steps : List ContextStep) : s.Later (steps.foldl step s) := by
  induction steps generalizing s with
  | nil => exact s.later_refl
  | cons a steps ih => exact (s.later_step a).trans (ih _)

/-- The contexts are the same, and so is all else but when one token was canceled. -/
structure SameBut (k : Token) (s s' : Contexts) : Prop where
  all : s'.all = s.all
  now : s'.timeline.now = s.timeline.now
  made : s'.timeline.made = s.timeline.made
  cancellations : ∀ (j : Token) (m : Moment), j ≠ k →
    ((j, m) ∈ s'.timeline.cancellations ↔ (j, m) ∈ s.timeline.cancellations)

namespace SameBut

variable {k : Token}

theorem add (h : SameBut k s s') {made made' : Context × Timeline} (hc : made'.1 = made.1)
    (ht : made.2 = s.timeline.newToken.2) (ht' : made'.2 = s'.timeline.newToken.2) :
    SameBut k (s.add made) (s'.add made') where
  all := by rw [Contexts.add, Contexts.add, h.all, hc]
  now := by rw [Contexts.add, Contexts.add, ht, ht']; exact h.now
  made := by rw [Contexts.add, Contexts.add, ht, ht']; exact congrArg (· + 1) h.made
  cancellations := by rw [Contexts.add, Contexts.add, ht, ht']; exact h.cancellations

theorem derive (h : SameBut k s s') {parent : Nat}
    {make : Context → Timeline → Context × Timeline}
    (hc : ∀ c, (make c s'.timeline).1 = (make c s.timeline).1)
    (ht : ∀ c t, (make c t).2 = t.newToken.2) :
    SameBut k (s.derive parent make) (s'.derive parent make) := by
  rw [Contexts.derive, Contexts.derive, h.all]
  cases s.all[parent]? with
  | none => exact h
  | some c => exact h.add (hc c) (ht c _) (ht c _)

theorem cancel (h : SameBut k s s') (c : Context) :
    SameBut k { s with timeline := s.timeline.cancel c }
      { s' with timeline := s'.timeline.cancel c } := by
  obtain ⟨tokens, deadline⟩ := c
  cases tokens with
  | nil => exact h
  | cons token rest =>
    refine ⟨h.all, h.now, h.made, fun j m hj => ?_⟩
    simp [Timeline.cancel, Timeline.cancelAt, h.now, h.cancellations j m hj]

/-- No step makes another difference. -/
theorem step (h : SameBut k s s') (a : ContextStep) : SameBut k (s.step a) (s'.step a) := by
  cases a with
  | background =>
    exact h.add (by simp [Timeline.background, Timeline.newToken, h.made]) rfl rfl
  | withCancel parent =>
    exact h.derive (fun c => by simp [Timeline.withCancel, Timeline.newToken, h.made])
      fun _ _ => rfl
  | withDeadline parent moment =>
    exact h.derive (fun c => by simp [Timeline.withDeadline, Timeline.newToken, h.made])
      fun _ _ => rfl
  | withTimeout parent span =>
    refine h.derive (fun c => ?_) (Timeline.withTimeout_snd span)
    rw [Timeline.withTimeout, Timeline.withTimeout, Timeline.after?, Timeline.after?, h.now]
    split <;> simp [Timeline.withDeadline, Timeline.withCancel, Timeline.newToken, h.made]
  | cancel context =>
    rw [Contexts.step.eq_def, Contexts.step.eq_def]
    dsimp only
    rw [h.all]
    cases s.all[context]? with
    | none => exact h
    | some c => simpa [h.all] using h.cancel c
  | advance millis => exact ⟨h.all, congrArg (· + millis) h.now, h.made, h.cancellations⟩

theorem foldl (h : SameBut k s s') (steps : List ContextStep) :
    SameBut k (steps.foldl Contexts.step s) (steps.foldl Contexts.step s') := by
  induction steps generalizing s s' with
  | nil => exact h
  | cons a steps ih => exact ih (h.step a)

/-- The difference does not count for contexts that do not have the token. -/
theorem ending?_eq (h : SameBut k s s') {c : Context} (hk : k ∉ c.tokens) :
    s'.ending? c = s.ending? c := by
  refine Timeline.ending?_congr ?_ h.now
  simp only [Timeline.HasCanceled, h.now]
  refine exists_congr fun j => exists_congr fun m => ?_
  constructor <;> rintro ⟨hm, hj, hle⟩
  · exact ⟨(h.cancellations j m (ne_of_mem_of_not_mem hj hk)).1 hm, hj, hle⟩
  · exact ⟨(h.cancellations j m (ne_of_mem_of_not_mem hj hk)).2 hm, hj, hle⟩

end SameBut

end Contexts

/-! ## All together -/

namespace Matches

variable {s : Contexts} {f : Lineage} {i j : Nat} {c d : Context}

theorem hasCanceled_iff (h : Matches s f) (hc : s.all[i]? = some c) :
    s.timeline.HasCanceled c ↔ f.IsCanceled i := by
  constructor
  · rintro ⟨token, moment, hmem, htoken, -⟩
    exact ⟨token, ((h.contexts i c hc).tokens token).1 htoken, (h.canceled token).2 ⟨_, hmem⟩⟩
  · rintro ⟨j, hj, hcanceled⟩
    obtain ⟨m, hm⟩ := (h.canceled j).1 hcanceled
    exact ⟨j, m, hm, ((h.contexts i c hc).tokens j).2 hj, h.now ▸ h.past j m hm⟩

/-- What ends a context ends all that come from it. -/
theorem ended_of_onPath (h : Matches s f) (hc : s.all[i]? = some c) (hd : s.all[j]? = some d)
    (hji : f.OnPath j i) (hended : s.ending? c ≠ none) : s.ending? d ≠ none := by
  have hrequested : f.requested i ⊆ f.requested j := fun m ⟨k, o, hik, ho, hm⟩ =>
    ⟨k, o, hji.trans hik, ho, hm⟩
  refine Timeline.ending?_ne_none.2 ((Timeline.ending?_ne_none.1 hended).imp (fun hcanceled => ?_)
    fun hdeadline => ?_)
  · rw [h.hasCanceled_iff hc] at hcanceled
    rw [h.hasCanceled_iff hd]
    obtain ⟨k, hik, hk⟩ := hcanceled
    exact ⟨k, hji.trans hik, hk⟩
  · obtain ⟨m, hm, hle⟩ := ((h.contexts i c hc).deadline.any_le_iff _).1 hdeadline
    exact (h.contexts j d hd).deadline.any_le_of_mem (hrequested hm.1) hle

end Matches

namespace Contexts

theorem run_append (steps later : List ContextStep) :
    run (steps ++ later) = later.foldl step (run steps) := List.foldl_append

/-- Canceling a context, in the middle of other steps, makes no difference but to its token. -/
theorem sameBut_cancel (steps later : List ContextStep) (k : Nat) :
    SameBut k (run (steps ++ later)) (run (steps ++ .cancel k :: later)) := by
  rw [run_append, run_append, List.foldl_cons]
  refine SameBut.foldl ?_ later
  rw [step]
  cases hc : (run steps).all[k]? with
  | none => exact ⟨rfl, rfl, rfl, fun _ _ _ => Iff.rfl⟩
  | some c =>
    obtain ⟨rest, htokens⟩ : ∃ rest, c.tokens = k :: rest :=
      List.head?_eq_some_iff.1 ((matches_run steps).contexts k c hc).own
    refine ⟨rfl, ?_, ?_, fun j m hj => ?_⟩ <;> simp_all [Timeline.cancel, Timeline.cancelAt]

/-- How contexts end, whatever is done with them. -/
theorem run_lives (steps : List ContextStep) :
    (run steps).timeline.now = (Lineage.run steps).now ∧
    (run steps).all.length = (Lineage.run steps).origins.length ∧
    ∀ (i : Nat) (c : Context), (run steps).all[i]? = some c →
      -- the deadline is the earliest one that was asked for on the path
      IsEarliest c.deadline ((Lineage.run steps).requested i) ∧
      -- what ends the context
      ((run steps).ending? c = some .canceled ↔ (Lineage.run steps).IsCanceled i) ∧
      ((run steps).ending? c = some .deadlineExceeded ↔
        ¬ (Lineage.run steps).IsCanceled i ∧
          ∃ m, IsLeast ((Lineage.run steps).requested i) m ∧ m ≤ (Lineage.run steps).now) ∧
      -- all that come from the context end with it
      (∀ (j : Nat) (d : Context), (Lineage.run steps).OnPath j i → (run steps).all[j]? = some d →
        (run steps).ending? c ≠ none → (run steps).ending? d ≠ none) ∧
      -- that another context was canceled counts for nothing, unless this one comes from it
      (∀ (before later : List ContextStep) (k : Nat), steps = before ++ later →
        ¬ (Lineage.run steps).OnPath i k ∨ (Lineage.run steps).OnPath k i ∧ k ≠ i →
          (run (before ++ .cancel k :: later)).all[i]? = some c ∧
            (run (before ++ .cancel k :: later)).ending? c = (run steps).ending? c) ∧
      -- an end is for ever, but for its kind
      ∀ (later : List ContextStep) (e : Ending), (run steps).ending? c = some e →
        (run (steps ++ later)).all[i]? = some c ∧
          ((run (steps ++ later)).ending? c = some e ∨
            e = .deadlineExceeded ∧ (run (steps ++ later)).ending? c = some .canceled) := by
  have h := matches_run steps
  refine ⟨h.now, h.length, fun i c hc => ⟨(h.contexts i c hc).deadline, ?_, ?_, ?_, ?_, ?_⟩⟩
  · rw [ending?, Timeline.ending?_eq_canceled, h.hasCanceled_iff hc]
  · rw [ending?, Timeline.ending?_eq_deadlineExceeded, h.hasCanceled_iff hc,
      (h.contexts i c hc).deadline.any_le_iff, h.now]
  · exact fun j d hji hd => h.ended_of_onPath hc hd hji
  · rintro before later k rfl hk
    have hsame := sameBut_cancel before later k
    have hpath : ¬ (Lineage.run (before ++ later)).OnPath i k :=
      hk.elim id fun ⟨hki, hne⟩ hik => hne (hki.eq_of_onPath h.ordered hik)
    exact ⟨hsame.all ▸ hc,
      hsame.ending?_eq fun hmem => hpath (((h.contexts i c hc).tokens k).1 hmem)⟩
  · intro later e he
    rw [run_append]
    have hlater := (run steps).later_foldl later
    obtain ⟨more, hmore⟩ := hlater.all
    refine ⟨?_, Timeline.ending?_later hlater.timeline he⟩
    rw [← hmore, List.getElem?_append_left (List.getElem?_eq_some_iff.1 hc).1, hc]

/-- A context with a deadline, and two that come from it: one that asks for more time than the clock
can show, and one that is canceled. Then the deadline passes. -/
def family : List ContextStep :=
  [.background, .withDeadline 0 1000, .withTimeout 1 (.ofParts Timeline.secondLimit 0),
    .withCancel 1, .cancel 3, .advance 1000]

theorem run_lives_family :
    (run family).all[2]? = some ⟨[2, 1, 0], some 1000⟩ ∧
    (run family).all[3]? = some ⟨[3, 1, 0], some 1000⟩ ∧
    IsLeast ((Lineage.run family).requested 2) 1000 ∧
    ¬ (Lineage.run family).IsCanceled 2 ∧ (Lineage.run family).IsCanceled 3 ∧
    (run (family ++ [.cancel 1])).ending? ⟨[2, 1, 0], some 1000⟩ = some .canceled := by
  obtain ⟨-, -, h⟩ := run_lives family
  obtain ⟨hdeadline, -, hexceeded, -, -, hlater⟩ := h 2 ⟨[2, 1, 0], some 1000⟩ (by decide)
  obtain ⟨-, hcanceled, -⟩ := h 3 ⟨[3, 1, 0], some 1000⟩ (by decide)
  refine ⟨by decide, by decide, hdeadline, (hexceeded.1 (by decide)).1, hcanceled.1 (by decide), ?_⟩
  obtain hsame | ⟨-, hcanceled⟩ := (hlater [.cancel 1] .deadlineExceeded (by decide)).2
  · exact absurd hsame (by decide)
  · exact hcanceled

end Contexts

end CloudClient
