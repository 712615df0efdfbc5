import CloudClient.Action.Progress
import Mathlib

/-!
# Percentages of many actions

The progress of many actions keeps a percentage for each id, and offers the average over all that
are watched. The average is made with numbers of 32 bits, and an action of which nothing was seen
counts as zero. So the list of percentages stands for a function on ids (`percentOf`), its sum is
the sum of that function over all ids that are watched, unless it overflows (`Covers.sum?_eq`), and
what makes the function greater makes the average greater (`average_le_average`).

Additions are checked one by one, but only the whole of the sum matters for whether one of them
overflows, and so the order of the percentages does not (`checkedSum?_eq`).
-/

namespace CloudClient

/-! ## Checked sums -/

theorem foldlM_checkedAdd? (xs : List UInt32) (x : UInt32) :
    xs.foldlM checkedAdd? x =
      if x.toNat + (xs.map UInt32.toNat).sum < 2 ^ 32 then
        some (UInt32.ofNat (x.toNat + (xs.map UInt32.toNat).sum))
      else none := by
  induction xs generalizing x with
  | nil =>
    have hlt := x.toNat_lt
    simp [hlt]
  | cons y rest ih =>
    have hsize : UInt32.size = 2 ^ 32 := rfl
    rw [List.foldlM_cons, List.map_cons, List.sum_cons, checkedAdd?, hsize]
    by_cases h : x.toNat + y.toNat < 2 ^ 32
    · have hadd : (x + y).toNat = x.toNat + y.toNat := by
        rw [UInt32.toNat_add, Nat.mod_eq_of_lt h]
      rw [if_pos h, ← Nat.add_assoc, ← hadd]
      exact ih (x + y)
    · rw [if_neg h, if_neg (by omega)]
      rfl

/-- **No addition overflows exactly if the sum is small enough**, in whatever order. -/
theorem checkedSum?_eq (xs : List UInt32) :
    checkedSum? xs =
      if (xs.map UInt32.toNat).sum < 2 ^ 32 then some (UInt32.ofNat (xs.map UInt32.toNat).sum)
      else none := by
  rw [checkedSum?, foldlM_checkedAdd?, UInt32.toNat_zero, Nat.zero_add]

namespace OverallProgress

/-- How far the action with an id has come, in percent; zero if nothing was seen of it. -/
def percentOf (p : OverallProgress) (id : Int) : Nat :=
  ((p.byAction.lookup id).map UInt32.toNat).getD 0

/-- The progress has percentages of some of these ids, and of no others, each once. -/
structure Covers (p : OverallProgress) (ids : Finset Int) : Prop where
  nodup : (p.byAction.map (·.1)).Nodup
  subset : ∀ id ∈ p.byAction.map (·.1), id ∈ ids

/-- The progress after snapshots. -/
def recordAll (p : OverallProgress) (us : List Action) : OverallProgress := us.foldl record p

/-! ## Setting a percentage -/

theorem lookup_cons_eq_ite (i : Int) (x : UInt32) (l : List (Int × UInt32)) (id : Int) :
    ((i, x) :: l).lookup id = if id = i then some x else l.lookup id := by
  by_cases h : id = i
  · rw [if_pos h, h, List.lookup_cons_self]
  · rw [if_neg h, List.lookup_cons, beq_eq_false_iff_ne.2 h]

theorem lookup_setPercent (id : Int) (x : UInt32) (l : List (Int × UInt32)) (i : Int) :
    (setPercent id x l).lookup i = if i = id then some x else l.lookup i := by
  induction l with
  | nil => exact lookup_cons_eq_ite id x [] i
  | cons e rest ih =>
    obtain ⟨j, y⟩ := e
    rw [setPercent]
    by_cases hj : j = id
    · rw [if_pos hj, lookup_cons_eq_ite, lookup_cons_eq_ite, hj]
      split_ifs <;> rfl
    · rw [if_neg hj, lookup_cons_eq_ite, lookup_cons_eq_ite, ih]
      by_cases h : i = j
      · rw [if_pos h, if_pos h, if_neg (h ▸ hj)]
      · rw [if_neg h, if_neg h]

theorem mem_keys_setPercent {id : Int} {x : UInt32} {l : List (Int × UInt32)} {i : Int} :
    i ∈ (setPercent id x l).map (·.1) ↔ i = id ∨ i ∈ l.map (·.1) := by
  induction l with
  | nil => simp [setPercent]
  | cons e rest ih =>
    obtain ⟨j, y⟩ := e
    rw [setPercent]
    split_ifs with hj
    · subst hj
      simp
    · rw [List.map_cons, List.mem_cons, ih, List.map_cons, List.mem_cons, or_left_comm]

theorem nodup_keys_setPercent {id : Int} {x : UInt32} {l : List (Int × UInt32)}
    (h : (l.map (·.1)).Nodup) : ((setPercent id x l).map (·.1)).Nodup := by
  induction l with
  | nil => simp [setPercent]
  | cons e rest ih =>
    obtain ⟨j, y⟩ := e
    obtain ⟨hj, hrest⟩ := List.nodup_cons.1 h
    rw [setPercent]
    split_ifs with heq
    · exact h
    · refine List.nodup_cons.2 ⟨?_, ih hrest⟩
      rw [mem_keys_setPercent]
      rintro (rfl | hmem)
      · exact heq rfl
      · exact hj hmem

/-! ## Snapshots -/

variable {p p' : OverallProgress} {ids : Finset Int} {us : List Action}

theorem percentOf_record (p : OverallProgress) (a : Action) (id : Int) :
    (p.record a).percentOf id = if id = a.id then a.percent.toNat else p.percentOf id := by
  rw [percentOf, record, lookup_setPercent, percentOf]
  split_ifs <;> rfl

theorem covers_start (ids : Finset Int) : start.Covers ids :=
  ⟨List.nodup_nil, fun _ h => absurd h List.not_mem_nil⟩

theorem Covers.record (h : p.Covers ids) {a : Action} (ha : a.id ∈ ids) :
    (p.record a).Covers ids where
  nodup := nodup_keys_setPercent h.nodup
  subset := by
    intro id hid
    rcases mem_keys_setPercent.1 hid with rfl | hid
    · exact ha
    · exact h.subset id hid

theorem Covers.recordAll (h : p.Covers ids) (hus : ∀ u ∈ us, u.id ∈ ids) :
    (p.recordAll us).Covers ids := by
  induction us generalizing p with
  | nil => exact h
  | cons u rest ih =>
    exact ih (h.record (hus u List.mem_cons_self)) fun v hv => hus v (List.mem_cons_of_mem u hv)

@[simp] theorem offered_recordAll (p : OverallProgress) (us : List Action) :
    (p.recordAll us).offered = p.offered := by
  induction us generalizing p with
  | nil => rfl
  | cons u rest ih => exact ih (p.record u)

/-- Snapshots of others say nothing of an action. -/
theorem percentOf_recordAll_of_ne (p : OverallProgress) {id : Int} (h : ∀ u ∈ us, u.id ≠ id) :
    (p.recordAll us).percentOf id = p.percentOf id := by
  induction us generalizing p with
  | nil => rfl
  | cons u rest ih =>
    have hrest := ih (p.record u) fun v hv => h v (List.mem_cons_of_mem u hv)
    rw [percentOf_record, if_neg (h u List.mem_cons_self).symm] at hrest
    exact hrest

/-- If there is one snapshot of an action, this is how far it has come. -/
theorem percentOf_recordAll_of_mem (p : OverallProgress) (hnodup : (us.map (·.id)).Nodup)
    {u : Action} (hu : u ∈ us) : (p.recordAll us).percentOf u.id = u.percent.toNat := by
  induction us generalizing p with
  | nil => cases hu
  | cons v rest ih =>
    obtain ⟨hv, hrest⟩ := List.nodup_cons.1 hnodup
    rcases List.mem_cons.1 hu with rfl | hu
    · have hother : ∀ w ∈ rest, w.id ≠ u.id := by
        intro w hw heq
        exact hv (List.mem_map.2 ⟨w, hw, heq⟩)
      have hlast := percentOf_recordAll_of_ne (p.record u) hother
      rw [percentOf_record, if_pos rfl] at hlast
      exact hlast
    · exact ih (p.record v) hrest hu

/-- **Snapshots that do not fall behind take nothing back.** -/
theorem percentOf_le_recordAll (hnodup : (us.map (·.id)).Nodup)
    (hle : ∀ u ∈ us, p.percentOf u.id ≤ u.percent.toNat) (id : Int) :
    p.percentOf id ≤ (p.recordAll us).percentOf id := by
  by_cases h : ∃ u ∈ us, u.id = id
  · obtain ⟨u, hu, rfl⟩ := h
    rw [percentOf_recordAll_of_mem p hnodup hu]
    exact hle u hu
  · rw [percentOf_recordAll_of_ne p fun u hu heq => h ⟨u, hu, heq⟩]

/-! ## The sum and the average -/

/-- The sum over a list without repetitions is a sum over its keys, and others count for
nothing. -/
theorem sum_map_eq_sum_lookup {l : List (Int × UInt32)} (hnodup : (l.map (·.1)).Nodup)
    (hsub : ∀ id ∈ l.map (·.1), id ∈ ids) :
    (l.map (·.2.toNat)).sum = ∑ id ∈ ids, ((l.lookup id).map UInt32.toNat).getD 0 := by
  induction l generalizing ids with
  | nil => simp
  | cons e rest ih =>
    obtain ⟨i, x⟩ := e
    obtain ⟨hi, hrest⟩ := List.nodup_cons.1 hnodup
    have hmem : i ∈ ids := hsub i List.mem_cons_self
    have hsub' : ∀ id ∈ rest.map (·.1), id ∈ ids.erase i := by
      intro id hid
      refine Finset.mem_erase.2 ⟨?_, hsub id (List.mem_cons_of_mem i hid)⟩
      rintro rfl
      exact hi hid
    rw [List.map_cons, List.sum_cons, ih hrest hsub', ← Finset.add_sum_erase _ _ hmem]
    congr 1
    · rw [lookup_cons_eq_ite, if_pos rfl]
      rfl
    · refine Finset.sum_congr rfl fun id hid => ?_
      rw [lookup_cons_eq_ite, if_neg (Finset.mem_erase.1 hid).1]

theorem Covers.sum_byAction (h : p.Covers ids) :
    ((p.byAction.map (·.2)).map UInt32.toNat).sum = ∑ id ∈ ids, p.percentOf id := by
  rw [List.map_map]
  exact sum_map_eq_sum_lookup h.nodup h.subset

/-- **The sum is the sum over all ids**, unless it overflows. -/
theorem Covers.sum?_eq (h : p.Covers ids) :
    p.sum? =
      if ∑ id ∈ ids, p.percentOf id < 2 ^ 32 then some (UInt32.ofNat (∑ id ∈ ids, p.percentOf id))
      else none := by
  rw [sum?, checkedSum?_eq, h.sum_byAction]

theorem Covers.overflows_iff (h : p.Covers ids) :
    p.overflows = true ↔ 2 ^ 32 ≤ ∑ id ∈ ids, p.percentOf id := by
  rw [overflows, h.sum?_eq]
  split_ifs with hlt
  · simpa using hlt
  · simpa using hlt

/-- There is an average unless the sum overflows. -/
theorem Covers.average?_eq (h : p.Covers ids) (hlt : ∑ id ∈ ids, p.percentOf id < 2 ^ 32)
    {total : UInt32} (htotal : total ≠ 0) :
    p.average? total = some (UInt32.ofNat (∑ id ∈ ids, p.percentOf id) / total) := by
  rw [average?, h.sum?_eq, if_pos hlt, Option.map_some, if_neg htotal]

theorem Covers.toNat_average? (h : p.Covers ids) (hlt : ∑ id ∈ ids, p.percentOf id < 2 ^ 32)
    {total : UInt32} (htotal : total ≠ 0) :
    (p.average? total).map UInt32.toNat =
      some ((∑ id ∈ ids, p.percentOf id) / total.toNat) := by
  rw [h.average?_eq hlt htotal, Option.map_some, UInt32.toNat_div, UInt32.toNat_ofNat_of_lt' hlt]

/-- **The average grows with the percentages.** -/
theorem average_le_average (h : p.Covers ids) (h' : p'.Covers ids)
    (hlt : ∑ id ∈ ids, p'.percentOf id < 2 ^ 32) (hle : ∀ id, p.percentOf id ≤ p'.percentOf id)
    {total x x' : UInt32} (htotal : total ≠ 0) (hx : p.average? total = some x)
    (hx' : p'.average? total = some x') : x ≤ x' := by
  have hsum : ∑ id ∈ ids, p.percentOf id ≤ ∑ id ∈ ids, p'.percentOf id :=
    Finset.sum_le_sum fun id _ => hle id
  have hnat := h.toNat_average? (hsum.trans_lt hlt) htotal
  have hnat' := h'.toNat_average? hlt htotal
  rw [hx, Option.map_some, Option.some.injEq] at hnat
  rw [hx', Option.map_some, Option.some.injEq] at hnat'
  rw [UInt32.le_iff_toNat_le, hnat, hnat']
  exact Nat.div_le_div_right hsum

end OverallProgress

end CloudClient
