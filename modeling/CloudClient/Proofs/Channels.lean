import CloudClient.Channel
import Mathlib.Data.List.Induction

/-!
# What a channel delivers

The two sides of a channel move as they like, so a statement about what is delivered is about every
list of moves. Whatever the moves are, a receiver takes from a channel what it holds, in order: what
was received and what still waits are together a sublist of what was offered
(`Channel.kept_run_sublist`). How much of it they are is a matter of room:

* with room for all of it, it is all of it (`Channel.kept_run`), and there is always room for more
  (`Channel.room_of_lt`);
* with any room at all, it has the first value (`Channel.head?_kept_run`).

And a receiver that asks often enough in the end has all that was kept
(`Channel.received_run_drain`).
-/

namespace CloudClient

variable {α : Type}

namespace Move

/-- The value that a move offers. -/
def offer? : Move α → Option α
  | offer x => some x
  | receive => none

/-- The values that moves offer, in order. -/
def offers (moves : List (Move α)) : List α := moves.filterMap offer?

@[simp] theorem offers_nil : offers ([] : List (Move α)) = [] := rfl

@[simp] theorem offers_cons_offer (x : α) (moves : List (Move α)) :
    offers (.offer x :: moves) = x :: offers moves := rfl

@[simp] theorem offers_concat_offer (moves : List (Move α)) (x : α) :
    offers (moves ++ [.offer x]) = offers moves ++ [x] :=
  List.filterMap_append

@[simp] theorem offers_concat_receive (moves : List (Move α)) :
    offers (moves ++ [.receive]) = offers moves := by
  rw [offers, List.filterMap_append]
  exact List.append_nil _

end Move

namespace Channel

open Move (offers)

@[simp] theorem offers_drain_append (n : Nat) (moves : List (Move α)) :
    offers (drain n ++ moves) = offers moves := by
  induction n with
  | zero => rfl
  | succ n ih => exact ih

/-- What was not dropped: what was received, and what waits. -/
def kept (c : Channel α) : List α := c.received ++ c.waiting

/-! ## One move -/

/-- What finds room waits. -/
theorem kept_step_offer_of_lt {c : Channel α} (h : c.waiting.length < c.capacity) (x : α) :
    (c.step (.offer x)).kept = c.kept ++ [x] := by
  rw [step, if_pos h, kept, kept, List.append_assoc]

/-- What finds none is dropped. -/
theorem kept_step_offer_of_le {c : Channel α} (h : c.capacity ≤ c.waiting.length) (x : α) :
    (c.step (.offer x)).kept = c.kept := by
  rw [step, if_neg (Nat.not_lt.2 h)]

/-- Receiving drops nothing. -/
theorem kept_step_receive (c : Channel α) : (c.step .receive).kept = c.kept := by
  rcases hw : c.waiting with _ | ⟨x, rest⟩
  · simp only [step, hw]
  · simp only [step, hw, kept, List.append_assoc, List.singleton_append]

@[simp] theorem capacity_step (c : Channel α) (m : Move α) : (c.step m).capacity = c.capacity := by
  cases m with
  | offer x => rw [step]; split <;> rfl
  | receive => rw [step]; split <;> rfl

/-! ## All moves -/

theorem run_append (c : Channel α) (moves moves' : List (Move α)) :
    c.run (moves ++ moves') = (c.run moves).run moves' :=
  List.foldl_append

theorem run_concat (c : Channel α) (moves : List (Move α)) (m : Move α) :
    c.run (moves ++ [m]) = (c.run moves).step m :=
  c.run_append moves [m]

@[simp] theorem capacity_run (c : Channel α) (moves : List (Move α)) :
    (c.run moves).capacity = c.capacity := by
  induction moves using List.reverseRecOn with
  | nil => rfl
  | append_singleton moves m ih => rw [run_concat, capacity_step, ih]

variable (capacity : Nat) (moves : List (Move α))

/-- Never do more values wait than there is room for. -/
theorem length_waiting_run_le : ((empty capacity).run moves).waiting.length ≤ capacity := by
  have h : ((empty capacity).run moves).waiting.length ≤
      ((empty capacity).run moves).capacity := by
    induction moves using List.reverseRecOn with
    | nil => exact Nat.zero_le _
    | append_singleton moves m ih =>
      rw [run_concat]
      exact length_waiting_step_le m ih
  rwa [capacity_run] at h

/-- **A channel delivers in order, and each value at most once.** -/
theorem kept_run_sublist : List.Sublist ((empty capacity).run moves).kept (offers moves) := by
  induction moves using List.reverseRecOn with
  | nil => exact List.Sublist.refl _
  | append_singleton moves m ih =>
    rw [run_concat]
    cases m with
    | offer x =>
      rw [Move.offers_concat_offer]
      rcases Nat.lt_or_ge ((empty capacity).run moves).waiting.length
        ((empty capacity).run moves).capacity with hroom | hfull
      · rw [kept_step_offer_of_lt hroom]
        exact ih.append (List.Sublist.refl _)
      · rw [kept_step_offer_of_le hfull]
        exact ih.trans (List.sublist_append_left _ _)
    | receive => rwa [kept_step_receive, Move.offers_concat_receive]

variable {capacity moves}

/-- **A channel with room for all values drops none.** -/
theorem kept_run (h : (offers moves).length ≤ capacity) :
    ((empty capacity).run moves).kept = offers moves := by
  induction moves using List.reverseRecOn with
  | nil => rfl
  | append_singleton moves m ih =>
    rw [run_concat]
    cases m with
    | offer x =>
      rw [Move.offers_concat_offer, List.length_append, List.length_singleton] at h
      have hkept := ih (Nat.le_of_succ_le h)
      -- those that wait are among the earlier ones
      have hroom : ((empty capacity).run moves).waiting.length <
          ((empty capacity).run moves).capacity := by
        have hlen := congrArg List.length hkept
        rw [kept, List.length_append] at hlen
        rw [capacity_run]
        change _ < capacity
        omega
      rw [kept_step_offer_of_lt hroom, hkept, Move.offers_concat_offer]
    | receive =>
      rw [Move.offers_concat_receive] at h
      rw [kept_step_receive, Move.offers_concat_receive, ih h]

/-- **Until so many values have been offered as there is room for, there is room for another
one.** -/
theorem room_of_lt (h : (offers moves).length < capacity) :
    ((empty capacity).run moves).waiting.length < capacity := by
  have hlen := congrArg List.length (kept_run (Nat.le_of_lt h))
  rw [kept, List.length_append] at hlen
  omega

/-- **The first value is never dropped.** -/
theorem head?_kept_run (hpos : 0 < capacity) :
    ((empty capacity).run moves).kept.head? = (offers moves).head? := by
  induction moves using List.reverseRecOn with
  | nil => rfl
  | append_singleton moves m ih =>
    rw [run_concat]
    cases m with
    | offer x =>
      rw [Move.offers_concat_offer, List.head?_append, ← ih]
      rcases Nat.lt_or_ge ((empty capacity).run moves).waiting.length
        ((empty capacity).run moves).capacity with hroom | hfull
      · rw [kept_step_offer_of_lt hroom, List.head?_append]
      · -- a full channel has kept something already
        rw [capacity_run] at hfull
        obtain ⟨y, hy⟩ : ∃ y, ((empty capacity).run moves).kept.head? = some y := by
          refine Option.isSome_iff_exists.1 (List.isSome_head?.2 ?_)
          rw [kept, ← List.length_pos_iff, List.length_append]
          exact Nat.add_pos_right _ (Nat.lt_of_lt_of_le hpos hfull)
        rw [kept_step_offer_of_le (by rwa [capacity_run]), hy]
        rfl
    | receive => rw [kept_step_receive, Move.offers_concat_receive, ih]

/-- Receiving as often as values wait receives them all. -/
theorem received_drain {c : Channel α} {n : Nat} (h : c.waiting.length ≤ n) :
    (c.run (drain n)).received = c.kept := by
  induction n generalizing c with
  | zero =>
    rw [kept, List.length_eq_zero_iff.1 (Nat.le_zero.1 h), List.append_nil]
    rfl
  | succ n ih =>
    have hstep : c.run (drain (n + 1)) = (c.step .receive).run (drain n) := rfl
    rw [hstep, ih, kept_step_receive]
    rcases hw : c.waiting with _ | ⟨x, rest⟩
    · simp only [step, hw, List.length_nil, Nat.zero_le]
    · rw [hw] at h
      simp only [step, hw]
      exact Nat.le_of_succ_le_succ h

/-- **What was kept is received in the end**, however often the receiver goes on asking. -/
theorem received_run_drain (moves : List (Move α)) {n : Nat} (h : capacity ≤ n) :
    ((empty capacity).run (moves ++ drain n)).received = ((empty capacity).run moves).kept := by
  rw [run_append, received_drain (Nat.le_trans (length_waiting_run_le capacity moves) h)]

/-- However the moves of the two sides follow each other, the channel delivers all of these values
in order, and nothing after them; and whenever one of them is offered, it finds room. -/
def DeliversAll (capacity : Nat) (values : List α) : Prop :=
  ∀ moves, offers moves <+: values →
    ((empty capacity).run moves).kept = offers moves ∧
      (offers moves ≠ values → ((empty capacity).run moves).waiting.length < capacity) ∧
      (offers moves = values → ∀ n, capacity ≤ n →
        ((empty capacity).run (moves ++ drain n)).received = values)

/-- **Values for which there is room in a channel are delivered.** -/
theorem deliversAll_of_length_le {values : List α} (h : values.length ≤ capacity) :
    DeliversAll capacity values := by
  intro moves hpre
  have hlen : (offers moves).length ≤ capacity := Nat.le_trans hpre.length_le h
  refine ⟨kept_run hlen, fun hne => room_of_lt ?_, fun heq n hn => ?_⟩
  · -- what has been offered is a proper part
    refine Nat.lt_of_lt_of_le (Nat.lt_of_le_of_ne hpre.length_le fun heq => ?_) h
    exact hne (hpre.eq_of_length heq)
  · rw [received_run_drain moves hn, kept_run hlen, heq]

/-- A receiver that takes all that waits before the clock moves on is one of many, who in the end
takes all that waits. -/
theorem exists_promptMoves_eq (capacity : Nat) (last : Option Nat) (values : List (Nat × α)) :
    ∃ moves, promptMoves capacity last values = moves ++ drain capacity ∧
      offers moves = values := by
  induction values generalizing last with
  | nil => exact ⟨[], rfl, rfl⟩
  | cons value rest ih =>
    obtain ⟨moment, x⟩ := value
    obtain ⟨moves, hmoves, hoffers⟩ := ih (some moment)
    rw [promptMoves, hmoves]
    split_ifs
    · exact ⟨.offer (moment, x) :: moves, rfl, congrArg _ hoffers⟩
    · refine ⟨drain capacity ++ .offer (moment, x) :: moves, ?_, ?_⟩
      · rw [List.append_assoc, List.cons_append]
      · rw [offers_drain_append, Move.offers_cons_offer, hoffers]

/-- **Who takes what waits in time receives all values.** -/
theorem DeliversAll.promptly_eq {values : List (Nat × α)} (h : DeliversAll capacity values) :
    promptly capacity values = values := by
  obtain ⟨moves, hmoves, hoffers⟩ := exists_promptMoves_eq capacity none values
  have hpre : offers moves <+: values := hoffers.symm ▸ List.prefix_rfl
  rw [promptly, hmoves]
  exact (h moves hpre).2.2 hoffers capacity (Nat.le_refl _)

/-- However the moves of the two sides follow each other, the channel delivers some of these values
in order, among them the first one; and a receiver that asks often enough in the end has all that it
delivers. -/
def DeliversFirst (capacity : Nat) (values : List α) : Prop :=
  ∀ moves, offers moves <+: values →
    List.Sublist ((empty capacity).run moves).kept values ∧
      ((empty capacity).run moves).kept.head? = (offers moves).head? ∧
      ∀ n, capacity ≤ n →
        ((empty capacity).run (moves ++ drain n)).received = ((empty capacity).run moves).kept

/-- **A channel with any room delivers the first value.** -/
theorem deliversFirst (hpos : 0 < capacity) (values : List α) :
    DeliversFirst capacity values := by
  intro moves hpre
  refine ⟨(kept_run_sublist capacity moves).trans hpre.sublist, head?_kept_run hpos, ?_⟩
  exact fun n hn => received_run_drain moves hn

end Channel

end CloudClient
