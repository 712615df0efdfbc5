import CloudClient.Proofs.PageWalks
import Mathlib.Order.Bounds.Basic

/-!
# Chains of pages

A server gives one answer after the other: a page that names the next one, a page that names none,
or an error. Which pages is it asked for then, and what becomes of its answers?

* `Paging.answering` gives the answers of a sequence in turn, and keeps the numbers of the pages
  that it was asked for.
* `Paging.collect_add` — as long as the answers name a next page, their entries are put in front of
  what comes after them.
* `Paging.collect_answering` — so pages are followed up to the first answer that names no next one,
  and for ever if there is none.
* `Client.pageBy_nextPage_lt` — the numbers of pages that a client reads have 32 bits, so pages that
  advance come to an end.
-/

namespace CloudClient

open Json

/-! ## Answers -/

/-- What a server answers when it is asked for a page. -/
abbrev Answer (α : Type) := Except Error (Page α)

namespace Answer

variable {α : Type}

/-- The number of the page that the answer leads to. It is zero if it leads to none, as an error
does. -/
def nextPage : Answer α → Nat
  | .ok page => (page.response.metadata.pagination.map (·.nextPage)).getD 0
  | .error _ => 0

/-- The entries of the page, if the answer is one. -/
def items : Answer α → List α
  | .ok page => page.items
  | .error _ => []

end Answer

/-- The next page is the one that the page leads to, if it leads to one. -/
theorem Page.next?_eq {α : Type} (p : Page α) :
    p.next? = if Answer.nextPage (.ok p) = 0 then none else some (Answer.nextPage (.ok p)) := by
  rw [next?, Answer.nextPage]
  cases p.response.metadata.pagination <;> rfl

/-- The outcome of a list with more entries in front of it. -/
def Outcome.after {α : Type} (front : List α) : Outcome (List α) → Outcome (List α)
  | .done items => .done (front ++ items)
  | .failed e => .failed e
  | .unfinished => .unfinished

theorem Outcome.after_after {α : Type} (front front' : List α) (o : Outcome (List α)) :
    (o.after front').after front = o.after (front ++ front') := by
  cases o <;> simp [after]

namespace Paging

variable {α : Type} (answers : Nat → Answer α)

/-- Gives these answers in turn. The state has the numbers of the pages that were asked for. -/
def answering (number : Nat) : Task (List Nat) (Page α) := do
  let asked ← Task.state
  Task.update (· ++ [number])
  Task.ofExcept (answers asked.length)

/-- The number of the page that this answer is for: the first page, and then the one that the answer
before leads to. -/
def asked : Nat → Nat
  | 0 => 1
  | n + 1 => (answers n).nextPage

/-- The numbers of the pages that the first `n` answers are for. -/
def askedTo (n : Nat) : List Nat := (List.range n).map (asked answers)

/-- The entries of the first `n` answers. -/
def itemsTo (n : Nat) : List α := (List.range n).flatMap fun i => (answers i).items

/-- As far as pages are followed, each leads to a later one. -/
def Advances : Prop :=
  ∀ n, (∀ i ≤ n, (answers i).nextPage ≠ 0) → asked answers n < (answers n).nextPage

variable {answers} {n : Nat}

theorem length_askedTo : (askedTo answers n).length = n := by simp [askedTo]

theorem askedTo_succ : askedTo answers (n + 1) = askedTo answers n ++ [asked answers n] := by
  simp [askedTo, List.range_succ]

theorem itemsTo_succ : itemsTo answers (n + 1) = itemsTo answers n ++ (answers n).items := by
  simp [itemsTo, List.range_succ]

/-! ## One answer -/

/-- The next answer is given. -/
theorem answering_askedTo (answers : Nat → Answer α) (n : Nat) :
    answering answers (asked answers n) (askedTo answers n) =
      Task.ofExcept (answers n) (askedTo answers (n + 1)) := by
  have hlength : (askedTo answers n).length = n := length_askedTo
  rw [askedTo_succ]
  change Task.ofExcept (answers (askedTo answers n).length) _ = _
  rw [hlength]

/-- An error is all that comes of a list. -/
theorem collectFrom_error {e : Error} (h : answers n = .error e) (rounds : Nat) :
    collectFrom (answering answers) (rounds + 1) (asked answers n) (askedTo answers n) =
      (.failed e, askedTo answers (n + 1)) := by
  have hcall := answering_askedTo answers n
  rw [h] at hcall
  rw [collectFrom, Task.bind_failed hcall]

/-- A page that leads to no other is the last one. -/
theorem collectFrom_last {page : Page α} (h : answers n = .ok page)
    (hlast : (answers n).nextPage = 0) (rounds : Nat) :
    collectFrom (answering answers) (rounds + 1) (asked answers n) (askedTo answers n) =
      (.done page.items, askedTo answers (n + 1)) := by
  have hcall := answering_askedTo answers n
  rw [h] at hcall hlast
  rw [collectFrom, Task.bind_done hcall, page.next?_eq, if_pos hlast]
  rfl

/-- **A page that leads to another one**: that one is asked for, and its entries come after those of
this one. -/
theorem collectFrom_next (hnext : (answers n).nextPage ≠ 0) (rounds : Nat) :
    collectFrom (answering answers) (rounds + 1) (asked answers n) (askedTo answers n) =
      let rest := collectFrom (answering answers) rounds (asked answers (n + 1))
        (askedTo answers (n + 1))
      (rest.1.after (answers n).items, rest.2) := by
  have hcall := answering_askedTo answers n
  have hasked : asked answers (n + 1) = (answers n).nextPage := rfl
  rcases h : answers n with e | page <;> rw [h] at hcall hnext hasked
  · exact absurd rfl hnext
  · rw [collectFrom, Task.bind_done hcall, page.next?_eq, if_neg hnext, ← hasked]
    simp only [Task.bind_apply]
    rcases collectFrom (answering answers) rounds (asked answers (n + 1)) (askedTo answers (n + 1))
      with ⟨_ | _ | _, _⟩ <;> rfl

/-! ## All answers -/

/-- **As long as the answers lead on**, one page is asked for after the other, and their entries are
put in front of those that come after them. -/
theorem collect_add (hnext : ∀ i < n, (answers i).nextPage ≠ 0) (rounds : Nat) :
    collect (n + rounds) (answering answers) [] =
      let rest := collectFrom (answering answers) rounds (asked answers n) (askedTo answers n)
      (rest.1.after (itemsTo answers n), rest.2) := by
  induction n generalizing rounds with
  | zero =>
    rw [Nat.zero_add]
    rcases h : collect rounds (answering answers) [] with ⟨_ | _ | _, _⟩ <;>
      rw [collect] at h <;> simp only [asked, askedTo, List.range_zero, List.map_nil, h] <;> rfl
  | succ n ih =>
    -- the last of the answers that lead on is the first one of the rounds that are left
    rw [Nat.succ_add_eq_add_succ, ih fun i hi => hnext i (Nat.lt_succ_of_lt hi),
      collectFrom_next (hnext n (Nat.lt_succ_self n)), itemsTo_succ]
    simp only [Outcome.after_after]

/-- Unless an answer comes that leads no further, only the bound on the rounds ends a list. -/
theorem collect_unfinished (hnext : ∀ i < n, (answers i).nextPage ≠ 0) :
    collect n (answering answers) [] = (.unfinished, askedTo answers n) :=
  collect_add hnext 0

/-- The first answer that leads no further ends a list. -/
theorem collect_ended (hn : IsLeast {n | (answers n).nextPage = 0} n) {rounds : Nat}
    (hrounds : n < rounds) :
    collect rounds (answering answers) [] =
      (match answers n with
        | .error e => .failed e
        | .ok _ => .done (itemsTo answers (n + 1)),
      askedTo answers (n + 1)) := by
  have hnext : ∀ i < n, (answers i).nextPage ≠ 0 := fun i hi hend =>
    Nat.not_le_of_lt hi (hn.2 hend)
  have hlast : (answers n).nextPage = 0 := hn.1
  obtain ⟨more, rfl⟩ := Nat.exists_eq_add_of_lt hrounds
  rw [Nat.add_assoc, collect_add hnext]
  rcases h : answers n with e | page
  · rw [collectFrom_error h]
    rfl
  · rw [collectFrom_last h hlast, itemsTo_succ, h]
    rfl

/-- Pages that advance are never asked for too early. -/
theorem Advances.lt_asked (h : Advances answers) (hnext : ∀ i < n, (answers i).nextPage ≠ 0) :
    n < asked answers n := by
  induction n with
  | zero => exact Nat.one_pos
  | succ n ih =>
    have hbefore := ih fun i hi => hnext i (Nat.lt_succ_of_lt hi)
    exact Nat.lt_of_le_of_lt hbefore (h n fun i hi => hnext i (Nat.lt_succ_of_le hi))

/-- Pages that advance come to an end before their numbers do. -/
theorem Advances.exists_end (h : Advances answers) {limit : Nat}
    (hlimit : ∀ n, (answers n).nextPage ≤ limit + 1) : ∃ n ≤ limit, (answers n).nextPage = 0 := by
  by_contra hnone
  push Not at hnone
  have hasked : limit + 1 < asked answers (limit + 1) :=
    h.lt_asked fun i hi => hnone i (Nat.le_of_lt_succ hi)
  exact Nat.not_le_of_lt hasked (hlimit limit)

/-- **Which pages are asked for.** The first page is, and then the page that each answer leads to,
up to the first answer that leads to none. If this is an error, it is all that comes of the list;
otherwise the list has the entries of all answers, in the order in which they were given. Nothing is
asked for after it. Only if there is no such answer a list has no end, whatever the bound on its
rounds. There is one if each page leads to a later one, as far as pages are followed, because their
numbers have 32 bits. -/
theorem collect_answering (answers : Nat → Answer α) :
    (∀ n, IsLeast {n | (answers n).nextPage = 0} n → ∀ rounds, n < rounds →
      collect rounds (answering answers) [] =
        (match answers n with
          | .error e => .failed e
          | .ok _ => .done (itemsTo answers (n + 1)),
        askedTo answers (n + 1))) ∧
    (∀ n, (∀ i < n, (answers i).nextPage ≠ 0) →
      collect n (answering answers) [] = (.unfinished, askedTo answers n)) ∧
    ((∀ rounds, (collect rounds (answering answers) []).1 = .unfinished) ↔
      ∀ n, (answers n).nextPage ≠ 0) ∧
    (Advances answers → (∀ n, (answers n).nextPage < 2 ^ 32) →
      ∃ n, IsLeast {n | (answers n).nextPage = 0} n ∧ n + 1 < 2 ^ 32) := by
  classical
  have hleast : ∀ n, (answers n).nextPage = 0 → ∃ m ≤ n, IsLeast {n | (answers n).nextPage = 0} m :=
    fun n hn =>
      have hex : ∃ n, (answers n).nextPage = 0 := ⟨n, hn⟩
      ⟨Nat.find hex, Nat.find_min' hex hn, Nat.find_spec hex, fun _ hm => Nat.find_min' hex hm⟩
  refine ⟨fun n hn rounds hrounds => collect_ended hn hrounds, fun n => collect_unfinished,
    ⟨fun hforever n hn => ?_, fun hnext rounds => ?_⟩, fun hadvances hword => ?_⟩
  · obtain ⟨m, -, hm⟩ := hleast n hn
    have hended := hforever (m + 1)
    rw [collect_ended hm (Nat.lt_succ_self m)] at hended
    cases h : answers m <;> simp [h] at hended
  · rw [collect_unfinished fun i _ => hnext i]
  · obtain ⟨n, hlt, hn⟩ := hadvances.exists_end fun n => Nat.le_of_lt_succ (hword n)
    obtain ⟨m, hle, hm⟩ := hleast n hn
    exact ⟨m, hm, by omega⟩

/-- An answer with these entries that leads to the page with this number. -/
def leading (next : Nat) (items : List Nat) : Answer Nat :=
  .ok ⟨items, { Response.received ⟨200⟩ .empty [] with
    metadata := ⟨some ⟨0, 0, none, next, 0, 0⟩, .unknown⟩ }⟩

/-- Three pages, of which the second one is empty and leads far ahead; then nothing else. -/
def leap : Nat → Answer Nat
  | 0 => leading 2 [10, 11]
  | 1 => leading 7 []
  | 2 => leading 0 [70]
  | _ => .error (.ended .canceled)

theorem collect_answering_leap :
    IsLeast {n | (leap n).nextPage = 0} 2 ∧
      collect 5 (answering leap) [] = (.done [10, 11, 70], [1, 2, 7]) ∧
      Advances leap ∧ (∀ n, (leap n).nextPage < 2 ^ 32) ∧
      ∃ n, IsLeast {n | (leap n).nextPage = 0} n ∧ n + 1 < 2 ^ 32 := by
  have hleast : IsLeast {n | (leap n).nextPage = 0} 2 := by
    refine ⟨rfl, fun n hn => ?_⟩
    match n with
    | 0 | 1 => cases hn
    | n + 2 => exact Nat.le_add_left 2 n
  have hadvances : Advances leap := by
    intro n hnext
    match n with
    | 0 | 1 => decide
    | n + 2 => exact absurd rfl (hnext 2 (Nat.le_add_left 2 n))
  have hword : ∀ n, (leap n).nextPage < 2 ^ 32
    | 0 | 1 | 2 => by decide
    | _ + 3 => Nat.two_pow_pos 32
  obtain ⟨hended, -, -, hreturns⟩ := collect_answering leap
  exact ⟨hleast, hended 2 hleast 5 (by decide), hadvances, hword, hreturns hadvances hword⟩

end Paging

/-! ## The numbers that a client reads -/

/-- A number with 32 bits. -/
theorem Json.Tree.nat32?_lt {t : Tree} {n : Nat} (h : t.nat32? = some n) : n < 2 ^ 32 := by
  obtain ⟨i, hi, rfl⟩ := Option.map_eq_some_iff.1 h
  cases t with
  | number numeral =>
    obtain ⟨parsed, -, hparsed⟩ := Option.bind_eq_some_iff.1 hi
    obtain ⟨-, hrange⟩ := Option.filter_eq_some_iff.1 hparsed
    simp only [Bool.and_eq_true, decide_eq_true_eq] at hrange
    omega
  | null | bool | string | array | object => cases hi

/-- The number of the next page that a record tells has 32 bits. -/
theorem Pagination.nextPage_told_lt (t : Tree) : (told t).nextPage < 2 ^ 32 := by
  rw [told]
  cases h : t.number? names "next_page" with
  | none => exact Nat.two_pow_pos 32
  | some n =>
    obtain ⟨field, -, hfield⟩ := Option.bind_eq_some_iff.1 h
    exact Tree.nat32?_lt hfield

/-- **Pages have numbers with 32 bits**, for every client: this is how they are read. -/
theorem Client.pageBy_nextPage_lt (c : Client) {α : Type} (make : Nat → Except Error Request)
    (read : Tree → Option (List α)) (number : Nat) :
    YieldsOnly (fun page => Answer.nextPage (.ok page) < 2 ^ 32) (c.pageBy make read number) :=
  .after fun _ => .bind (executeJson_told read) fun (items, response) h => .pure <| by
    have htold : response.metadata.pagination =
      if response.hasJsonBody then response.told? else none := h
    rw [Answer.nextPage, htold]
    split
    · cases hplace : response.told? with
      | none => exact Nat.two_pow_pos 32
      | some place =>
        obtain ⟨tree, -, hrecord⟩ := Option.bind_eq_some_iff.1 hplace
        obtain ⟨record, -, hsome⟩ := Option.bind_eq_some_iff.1 hrecord
        obtain rfl := Option.some.inj hsome
        exact Pagination.nextPage_told_lt record
    · exact Nat.two_pow_pos 32

end CloudClient
