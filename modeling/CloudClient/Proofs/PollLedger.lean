import CloudClient.Proofs.Ledger
import CloudClient.Proofs.RunningIds

/-!
# The calls of a wait

A wait pauses, asks and reports. `Polling.ledger` has all these calls in order, for a wait with any
polling, any reporter and any actions, and `mirrors_poll` says that it is the ledger of the wait
itself. What can be read off a ledger:

* `Ledger.polls`, `Ledger.answers` and `Ledger.updates` — what was asked for, what was answered, and
  what was reported;
* `Ledger.remaining` — the ids that are left to ask for, as a *set*;
* `Ledger.GoesOn` and `Ledger.EndsWith` — whether the last call lets the wait go on, or how it ends
  the wait.
-/

namespace CloudClient

/-! ## Calls -/

/-- A call of a wait. -/
inductive PollCall where
  /-- the pause before the poll with this number -/
  | pause (number : Nat) (ended : Outcome Unit)
  /-- the question for the actions with these ids -/
  | fetch (ids : List Int) (answer : Outcome (List Action))
  /-- a report -/
  | report (event : PollEvent) (ended : Outcome Unit)

namespace PollCall

/-- The ids that are asked for, and the answer. -/
def fetch? : PollCall → Option (List Int × Outcome (List Action))
  | fetch ids answer => some (ids, answer)
  | _ => none

theorem fetch?_eq_some {call : PollCall} {poll : List Int × Outcome (List Action)} :
    call.fetch? = some poll ↔ call = .fetch poll.1 poll.2 := by
  obtain ⟨ids, answer⟩ := poll
  cases call <;> simp [fetch?]

/-- The snapshot that is reported. -/
def update? : PollCall → Option Action
  | report (.update a) _ => some a
  | _ => none

/-- Does the wait go on after the call? An answer has to have as many snapshots as were asked
for. -/
def GoesOn : PollCall → Prop
  | pause _ ended => ended = .done ()
  | fetch ids answer => ∃ updates, answer = .done updates ∧ updates.length = ids.length
  | report _ ended => ended = .done ()

/-- Does the call end the wait in this way? -/
def Ends (o : Outcome Unit) : PollCall → Prop
  | pause _ ended => ended = o ∧ o ≠ .done ()
  | fetch ids answer => (answer.ended = o ∧ o ≠ .done ()) ∨ ∃ updates, answer = .done updates ∧
      updates.length ≠ ids.length ∧ o = .failed (.actionsNotFound (Polling.missingIds ids updates))
  | report _ ended => ended = o ∧ o ≠ .done ()

/-- No call ends a wait well. -/
theorem Ends.ne_done {o : Outcome Unit} {call : PollCall} (h : call.Ends o) : o ≠ .done () := by
  rintro rfl
  cases call <;> simp [Ends] at h

/-- A call that ends a wait does not let it go on. -/
theorem Ends.not_goesOn {o : Outcome Unit} {call : PollCall} (h : call.Ends o) : ¬ call.GoesOn := by
  cases call with
  | fetch ids answer =>
    rintro ⟨us, rfl, hlen⟩
    rcases h with ⟨rfl, hne⟩ | ⟨us', hus, hne, -⟩
    · exact hne rfl
    · cases hus
      exact hne hlen
  | _ =>
    obtain ⟨rfl, hne⟩ := h
    exact hne

end PollCall

namespace Ledger

variable {σ : Type}

/-- The polls: the ids that were asked for, with the answers. -/
def polls (es : Ledger σ PollCall) : List (List Int × Outcome (List Action)) :=
  es.filterMap (·.call.fetch?)

/-- The answers that have come. -/
def answers (es : Ledger σ PollCall) : List (List Action) := es.polls.filterMap (·.2.value?)

/-- The snapshots that were reported. -/
def updates (es : Ledger σ PollCall) : List Action := es.filterMap (·.call.update?)

/-- The tracked ids that no answer has shown as finished. -/
def remaining (actions : List Action) (es : Ledger σ PollCall) : Finset Int :=
  Polling.trackedIds actions \ Polling.finishedIds es.answers.flatten

/-- Was the last call the report of the end of a poll? -/
def IsBetweenPolls (es : Ledger σ PollCall) : Prop :=
  ∃ (prior : Ledger σ PollCall) (e : Entry σ PollCall),
    es = prior ++ [e] ∧ e.call = .report .pollDone (.done ())

/-- Has no call ended the wait? -/
def GoesOn (es : Ledger σ PollCall) : Prop := ∀ e ∈ es, e.call.GoesOn

/-- Has the last call ended the wait in this way? -/
def EndsWith (o : Outcome Unit) (es : Ledger σ PollCall) : Prop :=
  ∃ (prior : Ledger σ PollCall) (e : Entry σ PollCall), es = prior ++ [e] ∧ e.call.Ends o

variable {es : Ledger σ PollCall} {e : Entry σ PollCall}

theorem polls_concat : polls (es ++ [e]) = es.polls ++ e.call.fetch?.toList := by
  rw [polls, List.filterMap_append]
  cases h : e.call.fetch? <;> simp [polls, h]

theorem answers_concat :
    answers (es ++ [e]) = es.answers ++ (e.call.fetch?.toList.filterMap (·.2.value?)) := by
  rw [answers, polls_concat, List.filterMap_append]
  rfl

theorem updates_concat : updates (es ++ [e]) = es.updates ++ e.call.update?.toList := by
  rw [updates, List.filterMap_append]
  cases h : e.call.update? <;> simp [updates, h]

theorem goesOn_concat : GoesOn (es ++ [e]) ↔ es.GoesOn ∧ e.call.GoesOn := by
  simp [GoesOn, or_imp, forall_and]

theorem EndsWith.ne_done {o : Outcome Unit} (h : es.EndsWith o) : o ≠ .done () := by
  obtain ⟨-, e, -, hends⟩ := h
  exact hends.ne_done

/-- **Every poll stands somewhere in the ledger**, after as many polls as its number says. -/
theorem exists_fetch_of_polls {number : Nat} {poll : List Int × Outcome (List Action)}
    (h : es.polls[number]? = some poll) :
    ∃ (earlier : Ledger σ PollCall) (e : Entry σ PollCall), earlier ++ [e] <+: es ∧
      e.call = .fetch poll.1 poll.2 ∧ earlier.polls.length = number ∧
        earlier.polls = es.polls.take number := by
  induction es using List.reverseRecOn with
  | nil => simp [polls] at h
  | append_singleton prior e ih =>
    -- the poll is among the earlier ones, or it is the last entry
    by_cases hlt : number < (polls prior).length
    · rw [polls_concat, List.getElem?_append_left hlt] at h
      obtain ⟨earlier, e', hpre, hcall, hlen, htake⟩ := ih h
      refine ⟨earlier, e', hpre.trans (List.prefix_append _ _), hcall, hlen, ?_⟩
      rw [htake, polls_concat, List.take_append_of_le_length hlt.le]
    · rw [polls_concat, List.getElem?_append_right (not_lt.1 hlt)] at h
      obtain ⟨hzero, hcall⟩ : number - (polls prior).length = 0 ∧ e.call.fetch? = some poll := by
        rcases hc : e.call.fetch? with _ | poll'
        · simp [hc] at h
        · simpa [hc, List.getElem?_singleton] using h
      obtain rfl : number = (polls prior).length := by omega
      refine ⟨prior, e, List.prefix_refl _, PollCall.fetch?_eq_some.1 hcall, rfl, ?_⟩
      rw [polls_concat, List.take_left]

/-- Every answer stands somewhere in the ledger. -/
theorem exists_fetch_of_value? {number : Nat} {ids : List Int} {updates : List Action}
    (h : es.polls[number]?.map (fun poll => (poll.1, poll.2.value?)) = some (ids, some updates)) :
    ∃ (earlier : Ledger σ PollCall) (e : Entry σ PollCall), earlier ++ [e] <+: es ∧
      e.call = .fetch ids (.done updates) ∧ earlier.polls.length = number := by
  obtain ⟨⟨ids', answer⟩, hpoll, heq⟩ := Option.map_eq_some_iff.1 h
  obtain ⟨rfl, hvalue⟩ := Prod.mk.inj heq
  obtain ⟨earlier, e, hpre, hcall, hlen, -⟩ := exists_fetch_of_polls hpoll
  refine ⟨earlier, e, hpre, ?_, hlen⟩
  rw [hcall, Outcome.value?_eq_some.1 hvalue]

/-- Only questions change what is known of the actions. -/
theorem remaining_concat_of_fetch?_eq_none {actions : List Action} (h : e.call.fetch? = none) :
    remaining actions (es ++ [e]) = es.remaining actions := by
  simp [remaining, answers_concat, h]

end Ledger

namespace Polling

variable {σ τ : Type}

/-- The polling that enters its calls. -/
def entered (p : Polling σ) : Polling (σ × Ledger σ PollCall) where
  pause number := (p.pause number).entered (.pause number)
  fetch ids := (p.fetch ids).entered (.fetch ids)

end Polling

/-- The reporter that enters its calls. -/
def Reporter.entered {σ τ : Type} (report : Reporter σ τ) : Reporter (σ × Ledger σ PollCall) τ :=
  fun kept event => (report kept event).entered fun o => .report event o.ended

namespace Polling

variable {σ τ : Type}

/-- All calls of a wait. -/
def ledger (rounds : Nat) (p : Polling σ) (report : Reporter σ τ) (kept : τ)
    (actions : List Action) (start : σ) : Ledger σ PollCall :=
  (poll rounds p.entered report.entered kept actions (start, [])).2.2

/-! ## Entering calls changes nothing -/

theorem mirrors_reportAll (report : Reporter σ τ) (kept : τ) (updates : List Action) :
    Task.Mirrors (reportAll report.entered kept updates) (reportAll report kept updates) := by
  induction updates generalizing kept with
  | nil => exact .pure kept
  | cons a rest ih => exact .bind (.entered _ _) fun kept => ih kept

theorem mirrors_once (p : Polling σ) (report : Reporter σ τ) (number : Nat) (running : List Int)
    (kept : τ) :
    Task.Mirrors (once p.entered report.entered number running kept)
      (once p report number running kept) := by
  refine .bind (.entered _ _) fun _ => .bind (.entered _ _) fun updates => ?_
  split_ifs
  · exact .bind (mirrors_reportAll report kept updates) fun kept =>
      .bind (.entered _ _) fun kept => .pure _
  · exact .fail _

theorem mirrors_loop (p : Polling σ) (report : Reporter σ τ) (rounds number : Nat)
    (running : List Int) (kept : τ) :
    Task.Mirrors (loop p.entered report.entered rounds number running kept)
      (loop p report rounds number running kept) := by
  induction rounds generalizing number running kept with
  | zero =>
    cases running with
    | nil => exact .pure kept
    | cons id rest => exact .giveUp
  | succ rounds ih =>
    cases running with
    | nil => exact .pure kept
    | cons id rest =>
      exact .bind (mirrors_once p report number (id :: rest) kept) fun r => ih _ r.1 r.2

/-- **The ledger is that of the wait itself**: with it, the wait ends as it does without. -/
theorem mirrors_poll (rounds : Nat) (p : Polling σ) (report : Reporter σ τ) (kept : τ)
    (actions : List Action) :
    Task.Mirrors (poll rounds p.entered report.entered kept actions)
      (poll rounds p report kept actions) :=
  .bind (mirrors_reportAll report kept _) fun _ => .bind (.entered _ _) fun kept =>
    mirrors_loop p report rounds 0 (runningIds actions) kept

end Polling

end CloudClient
