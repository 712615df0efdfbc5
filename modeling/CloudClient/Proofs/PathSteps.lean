import CloudClient.Proofs.Tails
import Mathlib.Data.List.Basic
import Mathlib.Data.List.Induction
import Mathlib.Data.List.TakeWhile

/-!
# Where a path leads

A path is walked along its segments, and the last one is special: a path that ends in a step, such
as `..`, does not end there but in an empty segment. So where a path leads is one thing, and where
it leads if other segments follow is another.

* `Url.step` and `Url.walk_concat` — one step, and what the last one adds.
* `Url.IsPlain` — segments that stand for themselves; they are just added (`Url.walk_plain`).
* `Url.base` — where a tail leads if other segments follow (`Url.IsPath.pathText_append`).
* `Url.IsPath.pathText_cases` — the path of the tail itself is the same, or has one more slash.
* `Url.IsPath.length_base_append` — with blanks behind it, a tail leads to something longer.
-/

namespace CloudClient

namespace Url

/-! ## Steps along a path -/

section Steps

variable {path segments rest : List (List Char)} {segment last s tail : List Char} {u : Url}

/-- Does the segment stand for a step, and not for itself? -/
def isDots (segment : List Char) : Bool := isDoubleDot segment || isSingleDot segment

/-- One step along a segment, if others follow it. -/
def step (path : List (List Char)) (segment : List Char) : List (List Char) :=
  if isDoubleDot segment then path.tail
  else if isSingleDot segment then path
  else Percent.encode Percent.pathSet segment :: path

theorem step_of_not_isDots (h : isDots segment = false) :
    step path segment = Percent.encode Percent.pathSet segment :: path := by
  rw [isDots, Bool.or_eq_false_iff] at h
  rw [step, h.1, h.2]
  rfl

/-- **What the last segment adds**: a path does not end where a step leads. -/
theorem walk_cons (path : List (List Char)) (segment : List Char) (rest : List (List Char)) :
    walk .special path (segment :: rest) =
      walk .special (if isDots segment && rest.isEmpty then [] :: step path segment
        else step path segment) rest := by
  have hup : stepUp .special path = path.tail := by cases path <;> rfl
  rw [walk, isDots, step, hup]
  cases isDoubleDot segment with
  | true => rfl
  | false => cases isSingleDot segment <;> rfl

/-- Only the last step is different. -/
theorem walk_append (path segments : List (List Char)) (hrest : rest ≠ []) :
    walk .special path (segments ++ rest) = walk .special (segments.foldl step path) rest := by
  induction segments generalizing path with
  | nil => rfl
  | cons segment segments ih =>
    have hmore : (segments ++ rest).isEmpty = false :=
      List.isEmpty_eq_false_iff.2 (List.append_ne_nil_of_right_ne_nil _ hrest)
    rw [List.cons_append, walk_cons, hmore, Bool.and_false, if_neg Bool.false_ne_true, ih]
    rfl

theorem walk_concat (path segments : List (List Char)) (last : List Char) :
    walk .special path (segments ++ [last]) =
      if isDots last then [] :: (segments ++ [last]).foldl step path
      else (segments ++ [last]).foldl step path := by
  rw [walk_append _ _ (List.cons_ne_nil _ _), walk_cons, List.isEmpty_nil, Bool.and_true,
    List.foldl_append]
  rfl

/-- The segment stands for itself, and is written as it is. -/
structure IsPlain (segment : List Char) : Prop where
  isAuthority : IsAuthority .special segment
  notBlank : ∀ c ∈ segment, isControlOrBlank c = false
  encode_eq : Percent.encode Percent.pathSet segment = segment
  isDots_eq : isDots segment = false

theorem IsPlain.step_eq (h : IsPlain segment) : step path segment = segment :: path := by
  rw [step_of_not_isDots h.isDots_eq, h.encode_eq]

/-- **Plain segments are added to a path.** -/
theorem walk_plain (h : ∀ segment ∈ segments, IsPlain segment) (path : List (List Char)) :
    walk .special path segments = segments.reverse ++ path := by
  induction segments generalizing path with
  | nil => rfl
  | cons segment rest ih =>
    rw [List.forall_mem_cons] at h
    rw [walk_cons, h.1.isDots_eq, Bool.false_and, if_neg Bool.false_ne_true, h.1.step_eq, ih h.2,
      List.reverse_cons, List.append_assoc]
    rfl

/-- The text of a path, whose segments are given in reverse. -/
def spelled (path : List (List Char)) : List Char := path.reverse.flatMap ('/' :: ·)

theorem spelled_cons (segment : List Char) (path : List (List Char)) :
    spelled (segment :: path) = spelled path ++ '/' :: segment := by
  simp [spelled]

theorem toList_text_resolved (segments : List (List Char)) :
    (UrlPath.segments (resolved .special segments)).text.toList =
      spelled (walk .special [] segments) := by
  have hslash : (fun text => ("/" ++ String.ofList text).toList) = ('/' :: ·) := by
    funext text
    simp
  rw [UrlPath.text, String.toList_join, resolved, if_neg (by decide), List.map_map,
    List.flatMap_map, spelled]
  exact congrArg (List.flatMap · (walk .special [] segments).reverse) hslash

end Steps

/-! ## Segments of a text -/

section Segments

variable {segments : List (List Char)} {segment tail t : List Char}

theorem endsAuthority_eq_false_iff {c : Char} :
    endsAuthority .special c = false ↔ c ≠ '/' ∧ c ≠ '?' ∧ c ≠ '#' ∧ c ≠ '\\' := by
  simp [endsAuthority, SchemeKind.allowsBackslash, and_assoc]

/-- A character between segments. -/
def IsSlash (c : Char) : Prop := c = '/' ∨ c = '\\'

theorem rawSegments_eq (s : List Char) : rawSegments .special s =
    partsAt '/' (s.map fun c => if c = '\\' then '/' else c) := rfl

/-- A text without slashes is one segment. -/
theorem rawSegments_of_notSlash (h : ∀ c ∈ t, ¬ IsSlash c) : rawSegments .special t = [t] := by
  have hmap : t.map (fun c => if c = '\\' then '/' else c) = t :=
    (List.map_congr_left fun c hc => if_neg fun heq => h c hc (.inr heq)).trans (List.map_id t)
  rw [rawSegments_eq, hmap, partsAt_of_notMem fun hmem => h _ hmem (.inl rfl)]

/-- A slash of either kind ends a segment. -/
theorem rawSegments_append_cons {c : Char} (hc : IsSlash c) (s t : List Char) :
    rawSegments .special (s ++ c :: t) = rawSegments .special s ++ rawSegments .special t := by
  have hslash : (if c = '\\' then '/' else c) = '/' := by
    rcases hc with rfl | rfl
    · decide
    · decide
  rw [rawSegments_eq, List.map_append, List.map_cons, hslash, partsAt_append_cons, ← rawSegments_eq,
    ← rawSegments_eq]

/-- Segments that have no slash in them are found again. -/
theorem rawSegments_append (h : ∀ segment ∈ segments, IsAuthority .special segment)
    (s : List Char) : rawSegments .special (s ++ segments.flatMap ('/' :: ·)) =
      rawSegments .special s ++ segments := by
  induction segments generalizing s with
  | nil => rw [List.flatMap_nil, List.append_nil, List.append_nil]
  | cons segment rest ih =>
    rw [List.forall_mem_cons] at h
    have hsegment : ∀ c ∈ segment, ¬ IsSlash c := by
      intro c hc hslash
      have hends := endsAuthority_eq_false_iff.1 (h.1 c hc)
      exact hslash.elim hends.1 hends.2.2.2
    rw [List.flatMap_cons, List.cons_append, rawSegments_append_cons (.inl rfl), ih h.2,
      rawSegments_of_notSlash hsegment]
    rfl

/-- The last segment stands behind the last slash, and what follows it belongs to it. -/
theorem rawSegments_inv (s : List Char) : ∃ init front last, s = front ++ last ∧
    (∀ c ∈ last, ¬ IsSlash c) ∧ (∀ c ∈ front.getLast?, IsSlash c) ∧
    ∀ t, (∀ c ∈ t, ¬ IsSlash c) → rawSegments .special (s ++ t) = init ++ [last ++ t] := by
  induction s using List.reverseRecOn with
  | nil =>
    exact ⟨[], [], [], rfl, fun _ h => (nomatch h), fun _ h => (nomatch h),
      fun _ => rawSegments_of_notSlash⟩
  | append_singleton s c ih =>
    by_cases hc : IsSlash c
    · refine ⟨rawSegments .special s, s ++ [c], [], (List.append_nil _).symm,
        fun _ h => (nomatch h), ?_, fun t ht => ?_⟩
      · rw [List.getLast?_concat]
        rintro d ⟨⟩
        exact hc
      · rw [List.append_assoc, List.singleton_append, rawSegments_append_cons hc,
          rawSegments_of_notSlash ht, List.nil_append]
    · obtain ⟨init, front, last, rfl, hlast, hfront, hparts⟩ := ih
      refine ⟨init, front, last ++ [c], List.append_assoc _ _ _, ?_, hfront, fun t ht => ?_⟩
      · exact List.forall_mem_append.2 ⟨hlast, List.forall_mem_singleton.2 hc⟩
      · rw [List.append_assoc, hparts ([c] ++ t), List.append_assoc]
        exact List.forall_mem_cons.2 ⟨hc, ht⟩

/-- A segment that stands for a step is written with these signs. -/
theorem of_isDots (h : isDots segment = true) {c : Char} (hc : c ∈ segment) :
    c ∈ ['.', '%', '2', 'e', 'E'] := by
  have hkept : ∀ s : List Char, c ∈ s →
      c ∈ ['.', '%', '2', 'e', 'E'] ∨ c ∈ withoutEscapedDots s := by
    intro s hc
    fun_induction withoutEscapedDots s with
    | case1 e s he ih => grind
    | case2 e s he => exact .inr hc
    | case3 s ih => grind
    | case4 s => exact .inr hc
  rcases hkept segment hc with hc | hc
  · exact hc
  · have hdots : ∀ d ∈ withoutEscapedDots segment, d = '.' := by
      rw [isDots, isDoubleDot, isSingleDot, Bool.or_eq_true, beq_iff_eq, beq_iff_eq] at h
      rcases h with h | h
      · simp [h]
      · simp [h]
    rw [hdots c hc]
    exact List.mem_cons_self

/-- With blanks behind it a segment does not stand for a step. -/
theorem isDots_append_blanks (ht : ∀ c ∈ t, c.toNat ≤ 0x20) (hsome : t ≠ []) (segment : List Char) :
    isDots (segment ++ t) = false := by
  obtain ⟨c, hc⟩ := List.exists_mem_of_ne_nil t hsome
  by_contra hdots
  have hmem := of_isDots (eq_true_of_ne_false hdots) (List.mem_append_right segment hc)
  simp only [List.mem_cons, List.not_mem_nil, or_false] at hmem
  rcases hmem with rfl | rfl | rfl | rfl | rfl <;> exact absurd (ht _ hc) (by decide)

end Segments

/-! ## What is written -/

section Written

variable {t last : List Char}

theorem encode_append (set : Percent.CharSet) (s t : List Char) :
    Percent.encode set (s ++ t) = Percent.encode set s ++ Percent.encode set t :=
  List.flatMap_append

/-- What is written for a text is as long as the text, or longer. -/
theorem length_le_encode (set : Percent.CharSet) (s : List Char) :
    s.length ≤ (Percent.encode set s).length := by
  induction s with
  | nil => exact Nat.le_refl 0
  | cons c s ih =>
    have hpos : 0 < (Percent.encodeChar set c).length := by
      rw [Percent.encodeChar]
      split
      · have hne : String.utf8EncodeChar c ≠ [] := String.utf8EncodeChar_ne_nil
        obtain ⟨b, bytes, hbytes⟩ := List.exists_cons_of_ne_nil hne
        rw [hbytes]
        exact Nat.succ_pos _
      · exact Nat.one_pos
    rw [Percent.encode, List.flatMap_cons, List.length_append, List.length_cons, Nat.add_comm]
    exact Nat.add_le_add hpos ih

/-- Blanks are encoded in a path. -/
theorem length_encode_blanks (ht : ∀ c ∈ t, c.toNat ≤ 0x20) (hsome : t ≠ []) :
    3 ≤ (Percent.encode Percent.pathSet t).length := by
  obtain ⟨c, rest, rfl⟩ := List.exists_cons_of_ne_nil hsome
  have hc : (Percent.encodeChar Percent.pathSet c).length = 3 :=
    forall_blank (P := fun c => (Percent.encodeChar Percent.pathSet c).length = 3) (by decide)
      (ht c List.mem_cons_self)
  rw [Percent.encode, List.flatMap_cons, List.length_append, hc]
  exact Nat.le_add_right 3 _

/-- A step makes a path longer by no more than its segment. -/
theorem length_spelled_step (path : List (List Char)) (segment : List Char) :
    (spelled (step path segment)).length ≤
      (spelled path).length + 1 + (Percent.encode Percent.pathSet segment).length := by
  have htail : (spelled path.tail).length ≤ (spelled path).length := by
    cases path with
    | nil => exact Nat.le_refl _
    | cons segment path => simp [spelled_cons]
  rw [step]
  split
  · omega
  · split
    · omega
    · rw [spelled_cons, List.length_append, List.length_cons]
      omega

/-- Does the text end in a slash? -/
def EndsInSlash (s : List Char) : Prop := ∃ c ∈ s.getLast?, IsSlash c

/-- A path ends in a slash if nothing stands behind its last slash. -/
theorem endsInSlash_cons_iff {c : Char} {front : List Char} (hc : IsSlash c)
    (hfront : ∀ c ∈ front.getLast?, IsSlash c) (hlast : ∀ c ∈ last, ¬ IsSlash c) :
    EndsInSlash (c :: (front ++ last)) ↔ last = [] := by
  constructor
  · rintro ⟨d, hd, hslash⟩
    by_contra hne
    rw [← List.cons_append, List.getLast?_append_of_ne_nil _ hne] at hd
    exact hlast d (List.mem_of_mem_getLast? hd) hslash
  · rintro rfl
    rw [List.append_nil]
    cases hend : front.getLast? with
    | none =>
      obtain rfl := List.getLast?_eq_none_iff.1 hend
      exact ⟨c, rfl, hc⟩
    | some d =>
      refine ⟨d, ?_, hfront d hend⟩
      rw [List.getLast?_cons, hend]
      rfl

/-- So does the text of a path if its last segment is empty. -/
theorem getLast?_spelled_cons_iff (hlast : ∀ c ∈ last, ¬ IsSlash c) (path : List (List Char)) :
    (spelled (Percent.encode Percent.pathSet last :: path)).getLast? = some '/' ↔ last = [] := by
  rw [spelled_cons, List.getLast?_append_of_ne_nil _ (List.cons_ne_nil _ _)]
  constructor
  · intro hend
    by_contra hne
    have hwritten : Percent.encode Percent.pathSet last ≠ [] := by
      intro hnil
      have hle := length_le_encode Percent.pathSet last
      rw [hnil] at hle
      exact hne (List.eq_nil_of_length_eq_zero (Nat.le_zero.1 hle))
    rw [List.getLast?_cons_of_ne_nil hwritten] at hend
    have hmem := Percent.of_mem_encode (List.mem_of_mem_getLast? hend) rfl (by decide)
    exact hlast _ hmem.1 (.inl rfl)
  · rintro rfl
    rfl

end Written

/-! ## The path of a tail -/

section Paths

variable {segments : List (List Char)} {tail t : List Char} {u : Url}

/-- A text in which neither a query nor a fragment starts is all path. -/
theorem splitPath_of_notMem (h : ∀ c ∈ tail, c ≠ '?' ∧ c ≠ '#') : splitPath tail = (tail, []) := by
  have hall : ∀ c ∈ tail, decide (c ≠ '?' ∧ c ≠ '#') = true := fun c hc => decide_eq_true (h c hc)
  rw [splitPath, List.takeWhile_eq_self_iff.2 hall, List.dropWhile_eq_nil_iff.2 hall]

/-- The tail is a path. -/
structure IsPath (tail : List Char) : Prop where
  isPast : IsPastAuthority .special tail
  notMem : ∀ c ∈ tail, c ≠ '?' ∧ c ≠ '#'

/-- What neither starts a query nor a fragment can be added to a path. -/
theorem IsPath.append (h : IsPath tail) (hne : tail ≠ []) (ht : ∀ c ∈ t, c ≠ '?' ∧ c ≠ '#') :
    IsPath (tail ++ t) := by
  refine ⟨fun c hc => ?_, fun c hc => (List.mem_append.1 hc).elim (h.notMem c) (ht c)⟩
  cases tail with
  | nil => exact absurd rfl hne
  | cons d tail => exact h.isPast c hc

/-- Segments that have no slash in them, each with a slash in front, are a path. -/
theorem isPath_flatMap (h : ∀ segment ∈ segments, IsAuthority .special segment) :
    IsPath (segments.flatMap ('/' :: ·)) := by
  refine ⟨?_, fun c hc => ?_⟩
  · cases segments with
    | nil => exact fun c hc => nomatch hc
    | cons segment rest =>
      rintro c ⟨⟩
      rfl
  · obtain ⟨segment, hsegment, hc⟩ := List.mem_flatMap.1 hc
    rcases List.mem_cons.1 hc with rfl | hc
    · decide
    · have hends := endsAuthority_eq_false_iff.1 (h segment hsegment c hc)
      exact ⟨hends.2.1, hends.2.2.1⟩

theorem IsPath.append_segments (h : IsPath tail)
    (hsegments : ∀ segment ∈ segments, IsAuthority .special segment) :
    IsPath (tail ++ segments.flatMap ('/' :: ·)) := by
  cases tail with
  | nil => exact isPath_flatMap hsegments
  | cons c tail => exact h.append (List.cons_ne_nil c tail) (isPath_flatMap hsegments).notMem

theorem IsPath.isSlash {c : Char} (h : IsPath (c :: tail)) : IsSlash c := by
  obtain ⟨hquery, hfragment⟩ := h.notMem c List.mem_cons_self
  by_contra hne
  rw [IsSlash, not_or] at hne
  have hends := h.isPast c rfl
  rw [endsAuthority_eq_false_iff.2 ⟨hne.1, hquery, hfragment, hne.2⟩] at hends
  cases hends

theorem IsPath.pathText_eq {c : Char} (h : IsPath (c :: tail)) :
    (u.withTail (c :: tail)).pathText.toList =
      spelled (walk .special [] (rawSegments .special tail)) := by
  have hpath : (u.withTail (c :: tail)).path =
      .segments (resolved .special (rawSegments .special tail)) := by
    rw [withTail, splitPath_of_notMem h.notMem]
    rcases h.isSlash with rfl | rfl
    · rfl
    · rfl
  rw [pathText, hpath, toList_text_resolved]

theorem IsPath.fragment_eq (h : IsPath tail) : (u.withTail tail).fragment = none := by
  rw [withTail, splitPath_of_notMem h.notMem]
  rfl

/-- What a tail leads to if other segments follow. -/
def base : List Char → List Char
  | [] => []
  | _ :: rest => spelled ((rawSegments .special rest).foldl step [])

theorem spelled_append (segments path : List (List Char)) :
    spelled (segments.reverse ++ path) = spelled path ++ segments.flatMap ('/' :: ·) := by
  simp [spelled]

/-- **Plain segments behind a path** are added to where it leads. -/
theorem IsPath.pathText_append (h : IsPath tail) (hne : segments ≠ [])
    (hplain : ∀ segment ∈ segments, IsPlain segment) :
    (u.withTail (tail ++ segments.flatMap ('/' :: ·))).pathText.toList =
      base tail ++ segments.flatMap ('/' :: ·) := by
  have hauthority : ∀ segment ∈ segments, IsAuthority .special segment := fun segment hsegment =>
    (hplain segment hsegment).isAuthority
  have hwhole := h.append_segments hauthority
  cases tail with
  | nil =>
    obtain ⟨segment, rest, rfl⟩ := List.exists_cons_of_ne_nil hne
    have hraw : [] :: rawSegments .special (segment ++ rest.flatMap ('/' :: ·)) =
      [] :: segment :: rest := rawSegments_append hauthority []
    rw [List.nil_append, List.flatMap_cons, List.cons_append] at hwhole ⊢
    rw [hwhole.pathText_eq, (List.cons.inj hraw).2, walk_plain hplain, spelled_append]
    rfl
  | cons c tail =>
    rw [List.cons_append] at hwhole ⊢
    rw [hwhole.pathText_eq, rawSegments_append hauthority, walk_append _ _ hne, walk_plain hplain,
      spelled_append, base]

/-- **What the end of a path adds to where it leads**: a slash if its last segment stands for a
step. If not, then it leads to a slash just if it ends in one. -/
theorem IsPath.pathText_cases (h : IsPath tail) :
    ((u.withTail tail).pathText.toList = base tail ++ ['/'] ∧ ¬ EndsInSlash tail) ∨
      ((u.withTail tail).pathText.toList = base tail ∧
        ((base tail).getLast? = some '/' ↔ EndsInSlash tail)) := by
  cases tail with
  | nil =>
    have hpath : (u.withTail []).path = .segments [""] := rfl
    refine .inl ⟨?_, fun ⟨c, hc, _⟩ => nomatch hc⟩
    rw [pathText, hpath]
    decide
  | cons c tail =>
    obtain ⟨init, front, last, rfl, hlast, hfront, hparts⟩ := rawSegments_inv tail
    have hraw := hparts [] fun _ h => nomatch h
    rw [List.append_nil, List.append_nil] at hraw
    rw [h.pathText_eq, base, hraw, walk_concat]
    have hends := endsInSlash_cons_iff h.isSlash hfront hlast
    cases hdots : isDots last with
    | true =>
      refine .inl ⟨spelled_cons [] _, ?_⟩
      rw [hends]
      rintro rfl
      cases hdots
    | false =>
      refine .inr ⟨rfl, ?_⟩
      rw [hends, List.foldl_append, List.foldl_cons, List.foldl_nil, step_of_not_isDots hdots,
        getLast?_spelled_cons_iff hlast]

/-- A path is at most by a slash longer than what it leads to. -/
theorem IsPath.length_pathText_le (h : IsPath tail) :
    (u.withTail tail).pathText.toList.length ≤ (base tail).length + 1 := by
  rcases h.pathText_cases (u := u) with ⟨hpath, -⟩ | ⟨hpath, -⟩
  · rw [hpath, List.length_append, List.length_singleton]
  · rw [hpath]
    exact Nat.le_succ _

/-- **Blanks behind a path** count in what it leads to. -/
theorem IsPath.length_base_append (h : IsPath tail) (hne : tail ≠ [])
    (ht : ∀ c ∈ t, c.toNat ≤ 0x20) (hsome : t ≠ []) :
    (base tail).length + 1 < (base (tail ++ t)).length := by
  obtain ⟨c, tail, rfl⟩ := List.exists_cons_of_ne_nil hne
  obtain ⟨init, front, last, rfl, -, -, hparts⟩ := rawSegments_inv tail
  have hraw := hparts [] fun _ h => nomatch h
  have hblank : ∀ c ∈ t, ¬ IsSlash c := by
    rintro c hc (rfl | rfl)
    · exact absurd (ht _ hc) (by decide)
    · exact absurd (ht _ hc) (by decide)
  rw [List.append_nil, List.append_nil] at hraw
  rw [List.cons_append, base, base, hraw, hparts t hblank, List.foldl_append, List.foldl_append,
    List.foldl_cons, List.foldl_cons, List.foldl_nil, List.foldl_nil,
    step_of_not_isDots (isDots_append_blanks ht hsome last), spelled_cons, encode_append,
    List.length_append, List.length_cons, List.length_append]
  have hstep := length_spelled_step (init.foldl step []) last
  have hencode := length_encode_blanks ht hsome
  omega

end Paths

end Url

end CloudClient
