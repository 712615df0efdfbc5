import CloudClient.Operation
import CloudClient.Proofs.QueryRoundTrip
import Mathlib.Data.List.Forall2

/-!
# What a label tells

The label of an operation is the route of its path: the segments of the path, without a version in
front and with a hyphen in place of every number. Nothing of the route is lost in the label, and
nothing else gets into it, so labels are just as fine as routes.

* `Operation.HasSegments` — which segments a path has, whatever slashes stand between them. Each
  path has one list of them (`Operation.hasSegments_iff`).
* `Operation.HasRoute` — the route of a path, with `Operation.hasRoute_iff`.
* `Operation.IsRoute` — what segments of a route look like: none is empty, and none is a number.
* `Operation.joined_inj` — segments of that kind are not lost when they are joined.
* `Operation.label_eq_label_iff` — so two paths have one label just if they have one route.
-/

namespace CloudClient.Operation

variable {path s t : List Char} {segments segments' route route' : List (List Char)}

/-! ## Segments -/

/-- The path has these segments: texts with slashes between them, as many as there may be. A
question mark ends the path. -/
inductive HasSegments : List (List Char) → List Char → Prop
  | nil : HasSegments [] []
  | query (s : List Char) : HasSegments [] ('?' :: s)
  | slash {segments : List (List Char)} {s : List Char} (h : HasSegments segments s) :
      HasSegments segments ('/' :: s)
  | segment {segment : List Char} {segments : List (List Char)} {s : List Char}
      (hne : segment ≠ []) (hplain : ∀ c ∈ segment, c ≠ '/' ∧ c ≠ '?')
      (hends : ∀ c ∈ s.head?, c = '/' ∨ c = '?') (h : HasSegments segments s) :
      HasSegments (segment :: segments) (segment ++ s)

/-- No segment is empty, and none has a slash or a question mark. -/
theorem HasSegments.forall_mem (h : HasSegments segments path) :
    ∀ segment ∈ segments, segment ≠ [] ∧ ∀ c ∈ segment, c ≠ '/' ∧ c ≠ '?' := by
  induction h with
  | nil | query => simp
  | slash _ ih => exact ih
  | segment hne hplain _ _ ih => exact List.forall_mem_cons.2 ⟨⟨hne, hplain⟩, ih⟩

/-- The parts of a path ahead of the query that are not empty. -/
def parts (path : List Char) : List (List Char) :=
  (partsAt '/' (path.takeWhile (· ≠ '?'))).filter (!·.isEmpty)

theorem parts_slash (s : List Char) : parts ('/' :: s) = parts s := by
  simp [parts, partsAt]

theorem parts_append {segment : List Char} (hne : segment ≠ [])
    (hplain : ∀ c ∈ segment, c ≠ '/' ∧ c ≠ '?') (hends : ∀ c ∈ s.head?, c = '/' ∨ c = '?') :
    parts (segment ++ s) = segment :: parts s := by
  have hmark : ∀ c ∈ segment, decide (c ≠ '?') = true := fun c hc => by simp [hplain c hc]
  have hslash : '/' ∉ segment := fun hmem => (hplain '/' hmem).1 rfl
  rw [parts, List.takeWhile_append_of_pos hmark]
  cases s with
  | nil => simp [parts, partsAt, partsAt_of_notMem hslash, hne]
  | cons c s =>
    rcases hends c rfl with rfl | rfl
    · rw [parts_slash, parts, List.takeWhile_cons_of_pos (by decide), partsAt_append_cons,
        partsAt_of_notMem hslash]
      simp [hne]
    · simp [parts, partsAt, partsAt_of_notMem hslash, hne]

/-- A sign that is neither a slash nor a question mark starts a segment, which reaches up to the
next one of these. -/
theorem exists_segment {c : Char} (hslash : c ≠ '/') (hmark : c ≠ '?') (s : List Char) :
    ∃ segment rest, c :: s = segment ++ rest ∧ segment ≠ [] ∧
      (∀ d ∈ segment, d ≠ '/' ∧ d ≠ '?') ∧ (∀ d ∈ rest.head?, d = '/' ∨ d = '?') ∧
      rest.length ≤ s.length := by
  let isPlain (d : Char) : Bool := decide (d ≠ '/' ∧ d ≠ '?')
  refine ⟨c :: s.takeWhile isPlain, s.dropWhile isPlain, ?_, List.cons_ne_nil _ _, ?_, ?_,
    (List.dropWhile_sublist _).length_le⟩
  · rw [List.cons_append, List.takeWhile_append_dropWhile]
  · refine List.forall_mem_cons.2 ⟨⟨hslash, hmark⟩, fun d hd => ?_⟩
    simpa [isPlain] using List.all_eq_true.1 List.all_takeWhile d hd
  · intro d hd
    have hhead := List.head?_dropWhile_not isPlain s
    rw [Option.mem_def.1 hd] at hhead
    simp only [isPlain, ne_eq, decide_eq_false_iff_not] at hhead
    tauto

/-- The parts of a path are segments that it has. -/
theorem hasSegments_parts (path : List Char) : HasSegments (parts path) path := by
  induction hlength : path.length using Nat.strongRecOn generalizing path with
  | _ n ih =>
    subst hlength
    cases path with
    | nil => exact .nil
    | cons c s =>
      by_cases hslash : c = '/'
      · subst hslash
        rw [parts_slash]
        exact .slash (ih s.length (by simp) s rfl)
      by_cases hmark : c = '?'
      · subst hmark
        exact .query s
      obtain ⟨segment, rest, heq, hne, hplain, hends, hle⟩ := exists_segment hslash hmark s
      rw [heq, parts_append hne hplain hends]
      exact .segment hne hplain hends (ih rest.length (Nat.lt_succ_of_le hle) rest rfl)

/-- **Each path has one list of segments.** -/
theorem hasSegments_iff : HasSegments segments path ↔ parts path = segments := by
  constructor
  · intro h
    induction h with
    | nil => rfl
    | query s => simp [parts, partsAt]
    | slash _ ih => rw [parts_slash, ih]
    | segment hne hplain hends _ ih => rw [parts_append hne hplain hends, ih]
  · rintro rfl
    exact hasSegments_parts path

/-! ## Routes -/

/-- What stands in a label for a segment: a hyphen for a number, and itself for anything else. -/
inductive IsMasked : List Char → List Char → Prop
  | number {segment : List Char} (h : ∀ c ∈ segment, c.isDigit = true) : IsMasked segment ['-']
  | word {segment : List Char} {c : Char} (hc : c ∈ segment) (h : c.isDigit = false) :
      IsMasked segment segment

/-- The segments are the same without a version in front, which is the letter `v` with a number. -/
inductive IsUnversioned : List (List Char) → List (List Char) → Prop
  | version {digits : List Char} {rest : List (List Char)} (hne : digits ≠ [])
      (h : ∀ c ∈ digits, c.isDigit = true) : IsUnversioned (('v' :: digits) :: rest) rest
  | other {segments : List (List Char)}
      (h : ∀ digits ≠ [], segments.head? = some ('v' :: digits) → ∃ c ∈ digits, c.isDigit = false) :
      IsUnversioned segments segments

/-- The path leads along this route: its segments without a version and without numbers. -/
def HasRoute (path : String) (route : List (List Char)) : Prop :=
  ∃ segments unversioned, HasSegments segments path.toList ∧ IsUnversioned segments unversioned ∧
    List.Forall₂ IsMasked unversioned route

theorem isNumeric_eq_false_iff : isNumeric s = false ↔ ∃ c ∈ s, c.isDigit = false := by
  simp [isNumeric]

theorem isMasked_iff : IsMasked s t ↔ mask s = t := by
  rw [mask]
  constructor
  · rintro (h | ⟨hc, h⟩)
    · exact if_pos (List.all_eq_true.2 h)
    · exact if_neg (by simp [isNumeric_eq_false_iff.2 ⟨_, hc, h⟩])
  · split
    · rename_i h
      rintro rfl
      exact .number (List.all_eq_true.1 h)
    · rename_i h
      rintro rfl
      obtain ⟨c, hc, hdigit⟩ := isNumeric_eq_false_iff.1 (eq_false_of_ne_true h)
      exact .word hc hdigit

theorem isVersion_iff :
    isVersion s = true ↔ ∃ digits ≠ [], s = 'v' :: digits ∧ ∀ c ∈ digits, c.isDigit = true := by
  rw [isVersion.eq_def]
  split
  · rename_i digits
    simp [isNumeric]
  · rename_i hother
    simp only [Bool.false_eq_true, false_iff]
    rintro ⟨digits, -, rfl, -⟩
    exact hother digits rfl

theorem isUnversioned_iff : IsUnversioned segments route ↔ dropVersion segments = route := by
  constructor
  · rintro (⟨hne, h⟩ | h)
    · rw [dropVersion, if_pos (isVersion_iff.2 ⟨_, hne, rfl, h⟩)]
    · cases segments with
      | nil => rfl
      | cons segment rest =>
        rw [dropVersion, if_neg]
        intro hversion
        obtain ⟨digits, hne, rfl, hdigits⟩ := isVersion_iff.1 hversion
        obtain ⟨c, hc, hdigit⟩ := h digits hne rfl
        simp [hdigits c hc] at hdigit
  · rintro rfl
    cases segments with
    | nil => exact .other nofun
    | cons segment rest =>
      rw [dropVersion]
      split
      · rename_i hversion
        obtain ⟨digits, hne, rfl, hdigits⟩ := isVersion_iff.1 hversion
        exact .version hne hdigits
      · rename_i hother
        refine .other fun digits hne hhead => ?_
        obtain rfl := Option.some.inj hhead
        by_contra hall
        refine hother (isVersion_iff.2 ⟨digits, hne, rfl, fun c hc => ?_⟩)
        by_contra hdigit
        exact hall ⟨c, hc, eq_false_of_ne_true hdigit⟩

theorem forall₂_isMasked_iff :
    List.Forall₂ IsMasked segments route ↔ segments.map mask = route := by
  have hmask : IsMasked = fun s t => mask s = t := by
    funext s t
    exact propext isMasked_iff
  rw [hmask, ← List.forall₂_map_left_iff (R := Eq), List.forall₂_eq_eq_eq]

/-- **Each path leads along one route**: its masked segments. -/
theorem hasRoute_iff {path : String} :
    HasRoute path route ↔ maskedSegments path.toList = route := by
  simp only [HasRoute, hasSegments_iff, isUnversioned_iff, forall₂_isMasked_iff, exists_eq_left',
    exists_and_left]
  rfl

/-! ## Labels -/

/-- Segments like those of a route: none is empty, or a number. -/
def IsRoute (route : List (List Char)) : Prop :=
  ∀ segment ∈ route, '/' ∉ segment ∧ '?' ∉ segment ∧ ∃ c ∈ segment, c.isDigit = false

theorem isRoute_maskedSegments (path : List Char) : IsRoute (maskedSegments path) := by
  intro segment hsegment
  obtain ⟨own, hown, rfl⟩ := List.mem_map.1 hsegment
  have hmem : own ∈ parts path := by
    change own ∈ dropVersion (parts path) at hown
    revert hown
    cases parts path with
    | nil => exact id
    | cons first rest =>
      rw [dropVersion]
      split
      · exact List.mem_cons_of_mem _
      · exact id
  obtain ⟨-, hplain⟩ := (hasSegments_parts path).forall_mem own hmem
  rw [mask]
  split
  · exact ⟨by decide, by decide, '-', by simp, rfl⟩
  · rename_i hnumber
    exact ⟨fun h => (hplain _ h).1 rfl, fun h => (hplain _ h).2 rfl,
      isNumeric_eq_false_iff.1 (eq_false_of_ne_true hnumber)⟩

/-- **Segments of a route are not lost when they are joined.** -/
theorem joined_inj (h : IsRoute route) (h' : IsRoute route') (heq : joined route = joined route') :
    route = route' := by
  have hparts : ∀ {route : List (List Char)}, IsRoute route →
      (partsAt '/' (joined route)).filter (!·.isEmpty) = route := by
    intro route h
    have hne : ∀ segment ∈ route, (!segment.isEmpty) = true := by
      intro segment hsegment
      obtain ⟨-, -, c, hc, -⟩ := h segment hsegment
      cases segment with
      | nil => exact absurd hc List.not_mem_nil
      | cons d rest => rfl
    rw [joined]
    split
    · rename_i hempty
      rw [List.isEmpty_iff.1 hempty]
      rfl
    · have hparts := partsAt_append_flatMap (fun segment hsegment => (h segment hsegment).1) []
      rw [List.nil_append] at hparts
      rw [hparts]
      simpa [partsAt] using hne
  rw [← hparts h, heq, hparts h']

theorem toList_label (path : String) :
    (label path).toList = joined (maskedSegments path.toList) := by
  rw [label, String.toList_ofList]

/-! ## Other numbers -/

/-- The segments are the same, or both are numbers. -/
def SameButNumber (s t : List Char) : Prop :=
  s = t ∨ (∀ c ∈ s, c.isDigit = true) ∧ ∀ c ∈ t, c.isDigit = true

theorem SameButNumber.mask_eq (h : SameButNumber s t) : mask s = mask t := by
  rcases h with rfl | ⟨hs, ht⟩
  · rfl
  · rw [isMasked_iff.1 (.number hs), isMasked_iff.1 (.number ht)]

/-- A version is no number. -/
theorem isVersion_of_number (h : ∀ c ∈ s, c.isDigit = true) : isVersion s = false := by
  refine eq_false_of_ne_true fun hversion => ?_
  obtain ⟨digits, -, rfl, -⟩ := isVersion_iff.1 hversion
  exact absurd (h 'v' List.mem_cons_self) (by decide)

theorem SameButNumber.isVersion_eq (h : SameButNumber s t) : isVersion s = isVersion t := by
  rcases h with rfl | ⟨hs, ht⟩
  · rfl
  · rw [isVersion_of_number hs, isVersion_of_number ht]

theorem dropVersion_sameButNumber (h : List.Forall₂ SameButNumber segments segments') :
    List.Forall₂ SameButNumber (dropVersion segments) (dropVersion segments') := by
  cases h with
  | nil => exact .nil
  | cons hfirst hrest =>
    rw [dropVersion, dropVersion, hfirst.isVersion_eq]
    split
    · exact hrest
    · exact .cons hfirst hrest

theorem map_mask_sameButNumber (h : List.Forall₂ SameButNumber segments segments') :
    segments.map mask = segments'.map mask := by
  induction h with
  | nil => rfl
  | cons hfirst _ ih => rw [List.map_cons, List.map_cons, hfirst.mask_eq, ih]

/-- **The granularity of labels.** Each path leads along one route, and two paths have the same
label just if it is the same route: the segments in front of a question mark that are not empty,
without a version in front and with hyphens in place of numbers. The label is a slash, or the
segments of the route with a slash in front of each; none of them is empty or a number, or has a
question mark in it. So other numbers in a path make no other label. -/
theorem label_eq_label_iff (p q : String) :
    (∃! route, HasRoute p route) ∧
    (label p = label q ↔ ∃ route, HasRoute p route ∧ HasRoute q route) ∧
    (label p = "/" ∧ HasRoute p [] ∨
      ∃ route ≠ [], HasRoute p route ∧ IsRoute route ∧
        (label p).toList = route.flatMap ('/' :: ·)) ∧
    ∀ segments segments', HasSegments segments p.toList → HasSegments segments' q.toList →
      List.Forall₂ SameButNumber segments segments' → label p = label q := by
  refine ⟨⟨_, hasRoute_iff.2 rfl, fun route h => (hasRoute_iff.1 h).symm⟩, ⟨fun h => ?_, ?_⟩, ?_,
    fun segments segments' hp hq hsame => ?_⟩
  · have hjoined := congrArg String.toList h
    rw [toList_label, toList_label] at hjoined
    have hroute := joined_inj (isRoute_maskedSegments _) (isRoute_maskedSegments _) hjoined
    exact ⟨_, hasRoute_iff.2 hroute, hasRoute_iff.2 rfl⟩
  · rintro ⟨route, hp, hq⟩
    rw [label, label, hasRoute_iff.1 hp, hasRoute_iff.1 hq]
  · by_cases hempty : maskedSegments p.toList = []
    · refine .inl ⟨?_, hasRoute_iff.2 hempty⟩
      rw [label, hempty]
      rfl
    · refine .inr ⟨_, hempty, hasRoute_iff.2 rfl, isRoute_maskedSegments _, ?_⟩
      rw [toList_label, joined, if_neg (by simpa using hempty)]
  · rw [hasSegments_iff] at hp hq
    have hmasked : maskedSegments p.toList = maskedSegments q.toList := by
      change (dropVersion (parts p.toList)).map mask = (dropVersion (parts q.toList)).map mask
      rw [hp, hq]
      exact map_mask_sameButNumber (dropVersion_sameButNumber hsame)
    rw [label, label, hmasked]

/-- The version goes away only in front, and a letter keeps a segment from being a number. -/
example : label "//v2/servers/42/v1/7a?page=2" = "/servers/-/v1/7a" := by decide

end CloudClient.Operation
