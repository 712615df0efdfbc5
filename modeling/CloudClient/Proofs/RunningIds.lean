import CloudClient.Action.Poll
import Mathlib

/-!
# Running ids as sets

A wait keeps the ids of running actions in a list. What it does with this list has a plain meaning
in terms of **sets**, and the list is always the sorted list of the set: ascending and without
repetitions. So to know the list it is enough to know the set.

* `runningIds` starts with the set of all ids that are running (`runningIds_eq_sort`);
* a snapshot of a finished action takes its id out of the set, and nothing else changes the set
  (`foldl_stillRunning_sort`);
* `missingIds` is a difference of sets (`missingIds_sort`).
-/

namespace CloudClient.Polling

/-! ## Sets of ids -/

/-- The ids of actions. -/
def idSet (actions : List Action) : Finset Int := (actions.map (·.id)).toFinset

/-- The ids of the running ones among actions. -/
def trackedIds (actions : List Action) : Finset Int := idSet (actions.filter (·.isRunning))

/-- The ids of the finished ones among snapshots. -/
def finishedIds (updates : List Action) : Finset Int := idSet (updates.filter (·.isFinished))

@[simp] theorem mem_idSet {actions : List Action} {id : Int} :
    id ∈ idSet actions ↔ ∃ a ∈ actions, a.id = id := by
  simp [idSet]

@[simp] theorem mem_trackedIds {actions : List Action} {id : Int} :
    id ∈ trackedIds actions ↔ ∃ a ∈ actions, a.isRunning ∧ a.id = id := by
  simp [trackedIds, and_assoc]

@[simp] theorem mem_finishedIds {updates : List Action} {id : Int} :
    id ∈ finishedIds updates ↔ ∃ u ∈ updates, u.isFinished ∧ u.id = id := by
  simp [finishedIds, and_assoc]

@[simp] theorem finishedIds_nil : finishedIds [] = ∅ := rfl

theorem finishedIds_append (us vs : List Action) :
    finishedIds (us ++ vs) = finishedIds us ∪ finishedIds vs := by
  ext id
  simp [or_and_right, exists_or]

theorem finishedIds_cons (u : Action) (us : List Action) :
    finishedIds (u :: us) = (if u.isFinished then {u.id} else ∅) ∪ finishedIds us := by
  ext id
  simp only [Finset.mem_union, mem_finishedIds, List.exists_mem_cons_iff]
  by_cases h : u.isFinished
  · simp only [h, if_pos, true_and, Finset.mem_singleton, eq_comm (a := id)]
  · simp [h]

/-! ## Sorted lists -/

/-- An ascending list is the sorted list of its elements. -/
theorem sort_toFinset_of_ascending {l : List Int} (h : l.Pairwise (· < ·)) :
    l.toFinset.sort = l :=
  (List.toFinset_sort (· ≤ ·) (h.imp ne_of_lt)).2 (h.imp le_of_lt)

/-- A list is the sorted list of a set as soon as it is ascending and has the same elements. -/
theorem eq_sort_of_ascending {l : List Int} {s : Finset Int} (h : l.Pairwise (· < ·))
    (hmem : ∀ id, id ∈ l ↔ id ∈ s) : l = s.sort := by
  have hs : l.toFinset = s := by
    ext id
    rw [List.mem_toFinset, hmem]
  rw [← hs, sort_toFinset_of_ascending h]

theorem ascending_sort (s : Finset Int) : s.sort.Pairwise (· < ·) := by
  have h := s.sortedLT_sort
  exact List.sortedLT_iff_pairwise.1 h

/-- Dropping elements from a sorted list drops them from the set. -/
theorem filter_sort (s : Finset Int) (p : Int → Bool) :
    s.sort.filter p = (s.filter fun id => p id).sort := by
  apply eq_sort_of_ascending ((ascending_sort s).filter p)
  intro id
  simp

/-! ## The lists of a wait -/

theorem mem_insertId {id i : Int} {ids : List Int} :
    i ∈ insertId id ids ↔ i = id ∨ i ∈ ids := by
  induction ids with
  | nil => simp [insertId]
  | cons j rest ih =>
    rw [insertId]
    split_ifs with hlt heq
    · simp
    · subst heq; simp
    · simp only [List.mem_cons, ih]; tauto

theorem ascending_insertId {id : Int} {ids : List Int} (h : ids.Pairwise (· < ·)) :
    (insertId id ids).Pairwise (· < ·) := by
  induction ids with
  | nil => simp [insertId]
  | cons j rest ih =>
    obtain ⟨hj, hrest⟩ := List.pairwise_cons.1 h
    rw [insertId]
    split_ifs with hlt heq
    · refine List.pairwise_cons.2 ⟨?_, h⟩
      intro i hi
      rcases List.mem_cons.1 hi with rfl | hi
      · exact hlt
      · exact hlt.trans (hj i hi)
    · exact h
    · refine List.pairwise_cons.2 ⟨?_, ih hrest⟩
      intro i hi
      rcases mem_insertId.1 hi with rfl | hi
      · omega
      · exact hj i hi

/-- Inserting the ids of actions in turn keeps a list ascending and adds nothing else. -/
theorem foldl_insertId (actions : List Action) (ids : List Int) (h : ids.Pairwise (· < ·)) :
    (actions.foldl (fun ids a => insertId a.id ids) ids).Pairwise (· < ·) ∧
      ∀ i, i ∈ actions.foldl (fun ids a => insertId a.id ids) ids ↔
        i ∈ ids ∨ ∃ a ∈ actions, a.id = i := by
  induction actions generalizing ids with
  | nil => simp [h]
  | cons a rest ih =>
    obtain ⟨hasc, hmem⟩ := ih (insertId a.id ids) (ascending_insertId h)
    refine ⟨hasc, fun i => ?_⟩
    rw [List.foldl_cons, hmem, mem_insertId]
    simp only [List.exists_mem_cons_iff]
    tauto

/-- **The ids at the start of a wait** are those of the running actions, ascending. -/
theorem runningIds_eq_sort (actions : List Action) :
    runningIds actions = (trackedIds actions).sort := by
  obtain ⟨hasc, hmem⟩ := foldl_insertId (actions.filter (·.isRunning)) [] List.Pairwise.nil
  apply eq_sort_of_ascending hasc
  intro id
  rw [hmem]
  simp [and_assoc]

/-- A snapshot takes at most its own id out. -/
theorem stillRunning_sort (s : Finset Int) (u : Action) :
    stillRunning s.sort u = (s \ finishedIds [u]).sort := by
  rw [stillRunning, finishedIds_cons]
  split_ifs with h
  · rw [filter_sort]
    congr 1
    ext id
    simp
  · simp

/-- **The ids after snapshots** are those that no snapshot shows as finished, ascending. -/
theorem foldl_stillRunning_sort (s : Finset Int) (updates : List Action) :
    updates.foldl stillRunning s.sort = (s \ finishedIds updates).sort := by
  induction updates generalizing s with
  | nil => simp
  | cons u rest ih =>
    rw [List.foldl_cons, stillRunning_sort, ih, sdiff_sdiff_left, Finset.sup_eq_union,
      ← finishedIds_append, List.singleton_append]

/-- **The missing ids** are those that no snapshot has, ascending. -/
theorem missingIds_sort (s : Finset Int) (updates : List Action) :
    missingIds s.sort updates = (s \ idSet updates).sort := by
  rw [missingIds, filter_sort]
  congr 1
  ext id
  simp

end CloudClient.Polling
