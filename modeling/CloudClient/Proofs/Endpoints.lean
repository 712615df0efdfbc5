import CloudClient.Proofs.PathSteps
import CloudClient.Proofs.Utf8

/-!
# Paths behind an endpoint

The path of a request is meant to be relative to the endpoint, but it is the texts that are put
together and then read. They agree on where the request goes, but not always on its path: a path
behind a query belongs to the query, and an endpoint may end in characters that do not count at its
end but count in front of a path.

* `Url.IsSimplePath` — paths of segments that need no encoding and stand for no steps.
* `Url.IsExtensible` — endpoints that can have a path behind them, told from their end and their
  parts (`Url.Splits.isExtensible_iff`).
* `Url.exists_parse_iff` — a simple path behind an endpoint is read as one behind its path, just if
  the endpoint is of this kind. There is nothing special about any one path.
* `Client.request_relative_iff` — so this is when all requests are relative to the endpoint.
-/

namespace CloudClient

namespace Url

/-! ## Texts without slashes at their end -/

section Trimmed

variable {s : List Char}

/-- The text without slashes at its end. -/
def trimmed (s : List Char) : List Char := (s.reverse.dropWhile (· == '/')).reverse

theorem toList_trimEndpoint (s : String) :
    (ClientOptions.trimEndpoint s).toList = trimmed s.toList := String.toList_ofList

/-- Slashes are taken off the end of a text, and nothing else is. -/
theorem exists_slashes (s : List Char) :
    ∃ slashes : List Char, (∀ c ∈ slashes, c = '/') ∧ s = trimmed s ++ slashes := by
  obtain ⟨slashes, hslashes, heq⟩ := ClientOptions.eq_trimEndpoint_append (String.ofList s)
  replace heq := congrArg String.toList heq
  rw [String.toList_append, toList_trimEndpoint, String.toList_ofList, String.toList_ofList] at heq
  exact ⟨slashes, hslashes, heq⟩

theorem trimmed_append_slashes {slashes : List Char} (h : ∀ c ∈ slashes, c = '/') (s : List Char) :
    trimmed (s ++ slashes) = trimmed s := by
  have hpos : ∀ c ∈ slashes.reverse, (c == '/') = true := fun c hc =>
    beq_iff_eq.2 (h c (List.mem_reverse.1 hc))
  rw [trimmed, List.reverse_append, List.dropWhile_append_of_pos hpos, trimmed]

theorem trimmed_trimmed (s : List Char) : trimmed (trimmed s) = trimmed s := by
  obtain ⟨slashes, hslashes, heq⟩ := exists_slashes s
  conv_rhs => rw [heq, trimmed_append_slashes hslashes]

theorem trimmed_concat (s : List Char) : trimmed (s ++ ['/']) = trimmed s :=
  trimmed_append_slashes (fun _ hc => List.mem_singleton.1 hc) s

theorem length_trimmed_le (s : List Char) : (trimmed s).length ≤ s.length := by
  have hle : (s.reverse.dropWhile (· == '/')).length ≤ s.reverse.length :=
    (List.dropWhile_sublist _).length_le
  rw [List.length_reverse] at hle
  rwa [trimmed, List.length_reverse]

theorem trimmed_eq_self_iff : trimmed s = s ↔ s.getLast? ≠ some '/' := by
  induction s using List.reverseRecOn with
  | nil => exact iff_of_true rfl nofun
  | append_singleton s c =>
    rw [List.getLast?_concat, Ne, Option.some.injEq]
    by_cases hc : c = '/'
    · subst hc
      have hle := length_trimmed_le s
      refine iff_of_false (fun h => ?_) (fun h => h rfl)
      rw [trimmed_concat] at h
      rw [h, List.length_append, List.length_singleton] at hle
      omega
    · refine iff_of_true ?_ hc
      rw [trimmed, List.reverse_append]
      simp [hc]

theorem suffix_concat_slash_iff : ['/', '/'] <:+ s ++ ['/'] ↔ s.getLast? = some '/' := by
  rw [List.getLast?_eq_some_iff]
  constructor
  · rintro ⟨front, hfront⟩
    exact ⟨front, (List.append_cancel_right ((List.append_assoc _ _ _).trans hfront)).symm⟩
  · rintro ⟨front, rfl⟩
    exact ⟨front, (List.append_assoc _ ['/'] ['/']).symm⟩

end Trimmed

/-! ## The end of an endpoint -/

section Ends

variable {s authority tail : List Char} {endpoint : String} {u : Url}

/-- An authority does not end in a slash. -/
theorem endsInSlash_append (hs : IsAuthority .special s) (tail : List Char) :
    EndsInSlash (s ++ tail) ↔ EndsInSlash tail := by
  cases tail with
  | cons c tail =>
    rw [EndsInSlash, EndsInSlash, List.getLast?_append_of_ne_nil s (List.cons_ne_nil c tail)]
  | nil =>
    refine iff_of_false (fun ⟨c, hc, hslash⟩ => ?_) (fun ⟨c, hc, _⟩ => nomatch hc)
    rw [List.append_nil] at hc
    have hends := endsAuthority_eq_false_iff.1 (hs c (List.mem_of_mem_getLast? hc))
    exact hslash.elim hends.1 hends.2.2.2

theorem not_isDropped_of_notBlank {c : Char} (h : isControlOrBlank c = false) :
    (!isDropped c) = true := by
  by_contra hdropped
  simp only [isDropped, Bool.not_eq_true', Bool.not_eq_false, Bool.or_eq_true, beq_iff_eq]
    at hdropped
  rcases hdropped with (rfl | rfl) | rfl <;> exact absurd h (by decide)

theorem eq_nil_of_queryAndFragment (h : queryAndFragment .special s = (none, none)) : s = [] := by
  rw [queryAndFragment.eq_def] at h
  dsimp only at h
  split at h
  · split at h <;> cases h
  · cases h
  · rfl

/-- The tail of a URL with neither query nor fragment is a path. -/
theorem Splits.notMem_iff (h : Splits endpoint u authority tail) :
    (u.query = none ∧ u.fragment = none) ↔ ∀ c ∈ tail, c ≠ '?' ∧ c ≠ '#' := by
  have hsame := h.withTail_eq
  constructor
  · rintro ⟨hquery, hfragment⟩ c hc
    rw [← hsame] at hquery hfragment
    have hnil := eq_nil_of_queryAndFragment (Prod.ext hquery hfragment)
    have hall := List.dropWhile_eq_nil_iff.1 hnil c hc
    simpa using hall
  · intro hmem
    rw [withTail, splitPath_of_notMem hmem] at hsame
    rw [← hsame]
    exact ⟨rfl, rfl⟩

/-- What counts of a text in front of others is at the end of what is not dropped. -/
theorem exists_filter_eq (s : List Char) :
    ∃ front, s.filter (!isDropped ·) = front ++ (cleaned s ++ blanksAtEnd s) := by
  refine ⟨(s.takeWhile isControlOrBlank).filter (!isDropped ·), ?_⟩
  rw [cleaned_append_blanksAtEnd, ← List.filter_append, List.takeWhile_append_dropWhile]

/-- The last character that counts is no blank. -/
theorem isControlOrBlank_of_getLast? {c : Char} (h : c ∈ (cleaned s).getLast?) :
    isControlOrBlank c = false := by
  rw [cleaned] at h
  generalize hend : (s.dropWhile isControlOrBlank).reverse.dropWhile isControlOrBlank = front at h
  cases front with
  | nil => cases h
  | cons d front =>
    have hd : isControlOrBlank d = false := by
      have hhead := List.head?_dropWhile_not isControlOrBlank (s.dropWhile isControlOrBlank).reverse
      rw [hend] at hhead
      simpa using hhead
    have hkept : (!isDropped d) = true := not_isDropped_of_notBlank hd
    have hlast : ((d :: front).reverse.filter (!isDropped ·)).getLast? = some d := by
      rw [List.reverse_cons, List.filter_append]
      simp [hkept]
    rw [hlast] at h
    rwa [← Option.some.inj h]

/-- **What counts at the end of an endpoint.** -/
theorem Splits.last_iff (h : Splits endpoint u authority tail) :
    (∀ c ∈ (endpoint.toList.filter (!isDropped ·)).getLast?,
        isControlOrBlank c = false ∧ ¬ IsSlash c) ↔
      blanksAtEnd endpoint.toList = [] ∧ ¬ EndsInSlash tail := by
  obtain ⟨front, hfront⟩ := exists_filter_eq endpoint.toList
  obtain ⟨scheme, hcleaned⟩ := h.suffix
  have hsome : authority ++ tail ≠ [] := List.append_ne_nil_of_left_ne_nil h.ne_nil tail
  by_cases hnil : blanksAtEnd endpoint.toList = []
  · rw [hnil, List.append_nil, ← hcleaned] at hfront
    have hlast : (endpoint.toList.filter (!isDropped ·)).getLast? =
        (authority ++ tail).getLast? := by
      rw [hfront, List.getLast?_append_of_ne_nil _ (List.append_ne_nil_of_right_ne_nil _ hsome),
        List.getLast?_append_of_ne_nil _ hsome]
    rw [hlast, ← endsInSlash_append h.isAuthority]
    constructor
    · intro hall
      exact ⟨hnil, fun ⟨c, hc, hslash⟩ => (hall c hc).2 hslash⟩
    · rintro ⟨-, hslash⟩ c hc
      refine ⟨isControlOrBlank_of_getLast? (s := endpoint.toList) ?_, fun h => hslash ⟨c, hc, h⟩⟩
      rwa [← hcleaned, List.getLast?_append_of_ne_nil _ hsome]
  · refine iff_of_false (fun hall => ?_) fun h => hnil h.1
    obtain ⟨c, hc⟩ : ∃ c, (blanksAtEnd endpoint.toList).getLast? = some c :=
      ⟨_, List.getLast?_eq_some_getLast hnil⟩
    have hblank := blank_of_mem_blanksAtEnd (List.mem_of_mem_getLast? hc)
    have hlast : c ∈ (endpoint.toList.filter (!isDropped ·)).getLast? := by
      rw [hfront, ← List.append_assoc, List.getLast?_append_of_ne_nil _ hnil]
      exact hc
    have hnot := (hall c hlast).1
    rw [isControlOrBlank, decide_eq_false_iff_not] at hnot
    exact hnot hblank

/-- **Where a path leads** is the path without slashes at its end, if it has none. -/
theorem IsPath.base_eq_trimmed_iff (h : IsPath tail) :
    base tail = trimmed (u.withTail tail).pathText.toList ↔
      ¬ EndsInSlash tail ∧ ¬ ['/', '/'] <:+ (u.withTail tail).pathText.toList := by
  rcases h.pathText_cases (u := u) with ⟨hpath, hends⟩ | ⟨hpath, hends⟩
  · rw [hpath, trimmed_concat, eq_comm, trimmed_eq_self_iff, suffix_concat_slash_iff]
    exact ⟨fun h => ⟨hends, h⟩, fun h => h.2⟩
  · rw [hpath, eq_comm, trimmed_eq_self_iff, Ne, hends]
    refine ⟨fun h => ⟨h, fun hsuffix => h (hends.1 ?_)⟩, fun h => h.1⟩
    obtain ⟨front, hfront⟩ := hsuffix
    rw [← hfront]
    exact List.getLast?_append_of_ne_nil front (List.cons_ne_nil _ _)

/-- The endpoint can have a path behind it: it has nothing that comes after a path, its end counts,
and it does not end in slashes. -/
structure IsExtensible (endpoint : String) (u : Url) : Prop where
  query_eq : u.query = none
  fragment_eq : u.fragment = none
  last : ∀ c ∈ (endpoint.toList.filter (!isDropped ·)).getLast?,
    isControlOrBlank c = false ∧ ¬ IsSlash c
  path : ¬ ['/', '/'] <:+ u.pathText.toList

/-- **An endpoint that can have a path behind it** has one without slashes at its end. -/
theorem Splits.isExtensible_iff (h : Splits endpoint u authority tail) :
    IsExtensible endpoint u ↔ (∀ c ∈ tail, c ≠ '?' ∧ c ≠ '#') ∧ blanksAtEnd endpoint.toList = [] ∧
      base tail = trimmed u.pathText.toList := by
  have hbase : (∀ c ∈ tail, c ≠ '?' ∧ c ≠ '#') → (base tail = trimmed u.pathText.toList ↔
      ¬ EndsInSlash tail ∧ ¬ ['/', '/'] <:+ u.pathText.toList) := by
    intro hmem
    have htrimmed := IsPath.base_eq_trimmed_iff (u := u) ⟨h.isPast, hmem⟩
    rwa [h.withTail_eq] at htrimmed
  constructor
  · rintro ⟨hquery, hfragment, hlast, hpath⟩
    have hmem := h.notMem_iff.1 ⟨hquery, hfragment⟩
    obtain ⟨hblanks, hends⟩ := h.last_iff.1 hlast
    exact ⟨hmem, hblanks, (hbase hmem).2 ⟨hends, hpath⟩⟩
  · rintro ⟨hmem, hblanks, htrimmed⟩
    obtain ⟨hends, hpath⟩ := (hbase hmem).1 htrimmed
    obtain ⟨hquery, hfragment⟩ := h.notMem_iff.2 hmem
    exact ⟨hquery, hfragment, h.last_iff.2 ⟨hblanks, hends⟩, hpath⟩

end Ends

/-! ## Simple paths -/

section Simple

variable {s : List Char} {segment path : String}

/-- A character that may stand anywhere in a URL. -/
def isUnreserved (c : Char) : Bool :=
  c.isAlphanum || c == '-' || c == '.' || c == '_' || c == '~'

theorem forall_unreserved {P : Char → Prop}
    (h : ∀ n < 0x80, isUnreserved (Char.ofNat n) = true → P (Char.ofNat n)) {c : Char}
    (hc : isUnreserved c = true) : P c := by
  have hlt : c.toNat < 0x80 := by
    have hc := hc
    simp only [isUnreserved, Bool.or_eq_true, beq_iff_eq] at hc
    rcases hc with (((hword | rfl) | rfl) | rfl) | rfl
    · exact Nat.lt_succ_of_le (Utf8.toNat_le_of_isAlphanum hword)
    · decide
    · decide
    · decide
    · decide
  have hP := h c.toNat hlt
  rw [Char.ofNat_toNat] at hP
  exact hP hc

/-- The segment stands for itself, and is written with such characters. -/
structure IsSimple (segment : String) : Prop where
  ne_empty : segment ≠ ""
  ne_dot : segment ≠ "."
  ne_dots : segment ≠ ".."
  unreserved : ∀ c ∈ segment.toList, isUnreserved c = true

theorem encode_eq_self {set : Percent.CharSet} (h : ∀ c ∈ s, set c = false) :
    Percent.encode set s = s := by
  induction s with
  | nil => rfl
  | cons c s ih =>
    rw [List.forall_mem_cons] at h
    rw [Percent.encode, List.flatMap_cons, ← Percent.encode, ih h.2, Percent.encodeChar, h.1]
    rfl

theorem withoutEscapedDots_of_notMem (h : '%' ∉ s) : withoutEscapedDots s = s := by
  fun_induction withoutEscapedDots s with
  | case1 e s he ih => exact absurd List.mem_cons_self h
  | case2 e s he => rfl
  | case3 s ih => rw [ih fun hmem => h (List.mem_cons_of_mem _ hmem)]
  | case4 s => rfl

theorem IsSimple.isPlain (h : IsSimple segment) : IsPlain segment.toList := by
  have hplain : ∀ c ∈ segment.toList, endsAuthority .special c = false ∧
      isControlOrBlank c = false ∧ Percent.pathSet c = false ∧ c ≠ '%' := fun c hc =>
    forall_unreserved (P := fun c => endsAuthority .special c = false ∧
      isControlOrBlank c = false ∧ Percent.pathSet c = false ∧ c ≠ '%') (by decide)
      (h.unreserved c hc)
  have hpercent : '%' ∉ segment.toList := fun hmem => (hplain _ hmem).2.2.2 rfl
  refine ⟨fun c hc => (hplain c hc).1, fun c hc => (hplain c hc).2.1,
    encode_eq_self fun c hc => (hplain c hc).2.2.1, ?_⟩
  rw [isDots, isDoubleDot, isSingleDot, withoutEscapedDots_of_notMem hpercent,
    Bool.or_eq_false_iff, beq_eq_false_iff_ne, beq_eq_false_iff_ne]
  exact ⟨fun heq => h.ne_dots (String.toList_inj.1 heq),
    fun heq => h.ne_dot (String.toList_inj.1 heq)⟩

/-- The path has such segments, at least one, each with a slash in front. -/
def IsSimplePath (path : String) : Prop :=
  ∃ segments, segments ≠ [] ∧ (∀ segment ∈ segments, IsSimple segment) ∧
    path = (UrlPath.segments segments).text

theorem IsSimplePath.head?_eq (h : IsSimplePath path) : path.toList.head? = some '/' := by
  obtain ⟨segments, hne, -, rfl⟩ := h
  obtain ⟨segment, rest, rfl⟩ := List.exists_cons_of_ne_nil hne
  simp [UrlPath.text, String.toList_join]

/-- Segments of a simple path are plain, and not empty. -/
theorem IsSimplePath.exists_segments (h : IsSimplePath path) : ∃ segments : List (List Char),
    segments ≠ [] ∧ (∀ segment ∈ segments, IsPlain segment) ∧ (∀ segment ∈ segments, segment ≠ []) ∧
      path = String.ofList (segments.flatMap ('/' :: ·)) := by
  obtain ⟨segments, hne, hsimple, rfl⟩ := h
  refine ⟨segments.map String.toList, by simpa using hne, ?_, ?_, ?_⟩
  · simp only [List.mem_map]
    rintro - ⟨segment, hsegment, rfl⟩
    exact (hsimple segment hsegment).isPlain
  · simp only [List.mem_map]
    rintro - ⟨segment, hsegment, rfl⟩
    simpa using (hsimple segment hsegment).ne_empty
  · rw [← String.toList_inj, String.toList_ofList, UrlPath.text, String.toList_join]
    simp [List.flatMap_map]

end Simple

/-! ## Paths behind an endpoint -/

section Behind

variable {s authority tail : List Char} {segments : List (List Char)} {endpoint path : String}
  {u v : Url}

theorem cleanedEnd_of_notBlank (h : ∀ c ∈ s, isControlOrBlank c = false) : cleanedEnd s = s := by
  have hends : s.reverse.dropWhile isControlOrBlank = s.reverse := by
    cases hs : s.reverse with
    | nil => rfl
    | cons c rest =>
      have hc : c ∈ s := List.mem_reverse.1 (hs ▸ List.mem_cons_self)
      exact List.dropWhile_cons_of_neg (by simp [h c hc])
  rw [cleanedEnd, hends, List.reverse_reverse, List.filter_eq_self]
  exact fun c hc => not_isDropped_of_notBlank (h c hc)

/-- **What is read of an endpoint with plain segments behind it.** -/
theorem Splits.parse_plain (h : Splits endpoint u authority tail)
    (htail : tail ≠ [] ∨ blanksAtEnd endpoint.toList = []) (hne : segments ≠ [])
    (hplain : ∀ segment ∈ segments, IsPlain segment) :
    parse (endpoint ++ String.ofList (segments.flatMap ('/' :: ·))) =
      .ok (u.withTail
        (tail ++ (blanksAtEnd endpoint.toList ++ segments.flatMap ('/' :: ·)))) := by
  have hpath := isPath_flatMap fun segment hsegment => (hplain segment hsegment).isAuthority
  have hblank : ∀ c ∈ segments.flatMap ('/' :: ·), isControlOrBlank c = false := by
    intro c hc
    obtain ⟨segment, hsegment, hc⟩ := List.mem_flatMap.1 hc
    rcases List.mem_cons.1 hc with rfl | hc
    · decide
    · exact (hplain segment hsegment).notBlank c hc
  obtain ⟨path, heq⟩ : ∃ path, segments.flatMap ('/' :: ·) = '/' :: path := by
    obtain ⟨segment, rest, rfl⟩ := List.exists_cons_of_ne_nil hne
    exact ⟨_, List.flatMap_cons⟩
  rw [heq, List.forall_mem_cons] at hblank
  have hcleaned : '/' :: cleanedEnd path = segments.flatMap ('/' :: ·) := by
    rw [cleanedEnd_of_notBlank hblank.2, heq]
  have hpast : IsPastAuthority .special
      (tail ++ (blanksAtEnd endpoint.toList ++ '/' :: cleanedEnd path)) := by
    rw [hcleaned]
    cases tail with
    | cons c tail => exact h.isPast
    | nil =>
      rw [htail.resolve_left fun h => h rfl]
      exact hpath.isPast
  rw [heq, h.parse_append hpast, hcleaned, heq]

/-- What follows a query or a fragment is not in the path. -/
theorem pathText_append_of_mem (h : ¬ ∀ c ∈ tail, c ≠ '?' ∧ c ≠ '#') (t : List Char) :
    (u.withTail (tail ++ t)).pathText = (u.withTail tail).pathText := by
  have htake : (splitPath (tail ++ t)).1 = (splitPath tail).1 := by
    rw [splitPath, splitPath, List.takeWhile_append, if_neg]
    intro hlength
    have hall := List.takeWhile_eq_self_iff.1 ((List.takeWhile_prefix _).eq_of_length hlength)
    exact h fun c hc => of_decide_eq_true (hall c hc)
  rw [pathText, pathText, withTail, withTail, htake]

/-- So with segments behind it such an endpoint still has its own path, and not a longer one. -/
theorem pathText_ne_of_mem (h : ¬ ∀ c ∈ tail, c ≠ '?' ∧ c ≠ '#') (hne : segments ≠ [])
    (hplain : ∀ segment ∈ segments, IsPlain segment) (hsome : ∀ segment ∈ segments, segment ≠ [])
    (t : List Char) : (u.withTail (tail ++ t)).pathText.toList ≠
      trimmed (u.withTail tail).pathText.toList ++ segments.flatMap ('/' :: ·) := by
  intro hpath
  rw [pathText_append_of_mem h] at hpath
  obtain ⟨slashes, hslashes, heq⟩ := exists_slashes (u.withTail tail).pathText.toList
  -- the trimmed path has only slashes behind it
  have hsegments := List.append_cancel_left (heq.symm.trans hpath)
  obtain ⟨segment, rest, rfl⟩ := List.exists_cons_of_ne_nil hne
  obtain ⟨c, hc⟩ := List.exists_mem_of_ne_nil segment (hsome segment List.mem_cons_self)
  have hslash : c = '/' := hslashes c (hsegments ▸ by simp [hc])
  have hends := (hplain segment List.mem_cons_self).isAuthority c hc
  exact (endsAuthority_eq_false_iff.1 hends).1 hslash

/-- **Blanks behind a path** make it lead to something longer than the path. -/
theorem IsPath.base_append_ne (h : IsPath tail) (hne : tail ≠ [])
    (hblanks : blanksAtEnd endpoint.toList ≠ []) :
    base (tail ++ blanksAtEnd endpoint.toList) ≠ trimmed (u.withTail tail).pathText.toList := by
  intro hbase
  have hlength := congrArg List.length hbase
  have hlonger := h.length_base_append hne (fun c hc => blank_of_mem_blanksAtEnd hc) hblanks
  have hshorter := h.length_pathText_le (u := u)
  have htrimmed := length_trimmed_le (u.withTail tail).pathText.toList
  omega

/-- If the path that is read is longer than that of the endpoint, the endpoint has nothing that
comes after a path. -/
theorem Splits.notMem_of_parse (h : Splits endpoint u authority tail) (hne : segments ≠ [])
    (hplain : ∀ segment ∈ segments, IsPlain segment) (hsome : ∀ segment ∈ segments, segment ≠ [])
    (hv : parse (endpoint ++ String.ofList (segments.flatMap ('/' :: ·))) = .ok v)
    (hpath : v.pathText.toList = trimmed u.pathText.toList ++ segments.flatMap ('/' :: ·)) :
    ∀ c ∈ tail, c ≠ '?' ∧ c ≠ '#' := by
  by_contra hmem
  have htail : tail ≠ [] := by
    rintro rfl
    exact hmem fun c hc => absurd hc List.not_mem_nil
  rw [h.parse_plain (.inl htail) hne hplain] at hv
  obtain rfl := Except.ok.inj hv
  rw [← h.withTail_eq] at hpath
  exact pathText_ne_of_mem hmem hne hplain hsome _ hpath

/-- And it has no blanks at its end that count. -/
theorem Splits.blanksAtEnd_of_parse (h : Splits endpoint u authority tail) (hne : segments ≠ [])
    (hplain : ∀ segment ∈ segments, IsPlain segment) (hmem : ∀ c ∈ tail, c ≠ '?' ∧ c ≠ '#')
    (hv : parse (endpoint ++ String.ofList (segments.flatMap ('/' :: ·))) = .ok v)
    (hpath : v.pathText.toList = trimmed u.pathText.toList ++ segments.flatMap ('/' :: ·)) :
    blanksAtEnd endpoint.toList = [] := by
  by_contra hblanks
  by_cases htail : tail = []
  · -- they are right behind the authority
    subst htail
    obtain ⟨segment, rest, rfl⟩ := List.exists_cons_of_ne_nil hne
    exact h.not_parse_append hblanks hv
  · have htailPath : IsPath tail := ⟨h.isPast, hmem⟩
    have hlonger : IsPath (tail ++ blanksAtEnd endpoint.toList) := by
      refine htailPath.append htail fun c hc => ?_
      have hle := blank_of_mem_blanksAtEnd hc
      exact ⟨ne_of_blank hle (by decide), ne_of_blank hle (by decide)⟩
    rw [h.parse_plain (.inl htail) hne hplain, ← List.append_assoc] at hv
    obtain rfl := Except.ok.inj hv
    rw [hlonger.pathText_append hne hplain, ← h.withTail_eq] at hpath
    exact htailPath.base_append_ne htail hblanks (List.append_cancel_right hpath)

/-- **A simple path is read behind an endpoint** just if the endpoint can have a path behind it. -/
theorem exists_parse_iff (hkind : SchemeKind.ofScheme u.scheme = .special)
    (hu : parse endpoint = .ok u) (hpath : IsSimplePath path) :
    (∃ v, parse (endpoint ++ path) = .ok v ∧
        v.pathText = ClientOptions.trimEndpoint u.pathText ++ path ∧ v.fragment = none) ↔
      IsExtensible endpoint u := by
  obtain ⟨authority, tail, hsplits⟩ := exists_splits hkind hu
  obtain ⟨segments, hne, hplain, hsome, rfl⟩ := hpath.exists_segments
  rw [hsplits.isExtensible_iff]
  constructor
  · rintro ⟨v, hv, hpath, -⟩
    replace hpath := congrArg String.toList hpath
    rw [String.toList_append, toList_trimEndpoint, String.toList_ofList] at hpath
    have hmem := hsplits.notMem_of_parse hne hplain hsome hv hpath
    have hblanks := hsplits.blanksAtEnd_of_parse hne hplain hmem hv hpath
    rw [hsplits.parse_plain (.inr hblanks) hne hplain, hblanks, List.nil_append] at hv
    obtain rfl := Except.ok.inj hv
    rw [IsPath.pathText_append ⟨hsplits.isPast, hmem⟩ hne hplain] at hpath
    exact ⟨hmem, hblanks, List.append_cancel_right hpath⟩
  · rintro ⟨hmem, hblanks, hbase⟩
    have htailPath : IsPath tail := ⟨hsplits.isPast, hmem⟩
    have hwhole := htailPath.append_segments fun segment hsegment =>
      (hplain segment hsegment).isAuthority
    refine ⟨_, hsplits.parse_plain (.inr hblanks) hne hplain, ?_, ?_⟩
    · rw [← String.toList_inj, hblanks, List.nil_append, htailPath.pathText_append hne hplain,
        String.toList_append, toList_trimEndpoint, String.toList_ofList, hbase]
    · rw [hblanks, List.nil_append, hwhole.fragment_eq]

/-- An endpoint that can have a path behind it can be given with slashes at its end. -/
theorem IsExtensible.exists_parse (h : IsExtensible endpoint u)
    (hkind : SchemeKind.ofScheme u.scheme = .special) (hu : parse endpoint = .ok u)
    {slashes : List Char} (hslashes : ∀ c ∈ slashes, c = '/') :
    ∃ v, parse (endpoint ++ String.ofList slashes) = .ok v ∧
      ClientOptions.trimEndpoint v.pathText = ClientOptions.trimEndpoint u.pathText := by
  by_cases hnil : slashes = []
  · subst hnil
    exact ⟨u, by simpa using hu, rfl⟩
  obtain ⟨authority, tail, hsplits⟩ := exists_splits hkind hu
  obtain ⟨hmem, hblanks, hbase⟩ := hsplits.isExtensible_iff.1 h
  have htailPath : IsPath tail := ⟨hsplits.isPast, hmem⟩
  -- the slashes are those of empty segments
  let segments : List (List Char) := slashes.map fun _ => []
  have hsegments : segments.flatMap ('/' :: ·) = slashes := by
    rw [List.flatMap_map, ← List.map_eq_flatMap]
    exact (List.map_congr_left fun c hc => (hslashes c hc).symm).trans (List.map_id _)
  have hplain : ∀ segment ∈ segments, IsPlain segment := by
    intro segment hsegment
    obtain ⟨c, -, rfl⟩ := List.mem_map.1 hsegment
    exact ⟨fun c hc => absurd hc List.not_mem_nil, fun c hc => absurd hc List.not_mem_nil, rfl, rfl⟩
  have hne : segments ≠ [] := by simpa [segments] using hnil
  have hparse := hsplits.parse_plain (.inr hblanks) hne hplain
  have hpath := htailPath.pathText_append (u := u) hne hplain
  rw [hblanks, List.nil_append] at hparse
  rw [hsegments] at hparse hpath
  refine ⟨_, hparse, ?_⟩
  rw [← String.toList_inj, toList_trimEndpoint, toList_trimEndpoint, hpath,
    trimmed_append_slashes hslashes, hbase, trimmed_trimmed]

end Behind

end Url

/-! ## Requests -/

/-- A request can be made just if its URL can be read. -/
theorem Client.exists_request_iff {c : Client} {l : Lifetime} {method path : String}
    {body : Option Bytes} {P : Url → Prop} :
    (∃ r, c.request l method path body = .ok r ∧ P r.url) ↔
      ∃ v, Url.parse (c.endpoint ++ path) = .ok v ∧ P v := by
  rw [request]
  cases Url.parse (c.endpoint ++ path) with
  | error e =>
    constructor
    · rintro ⟨r, hr, -⟩
      cases hr
    · rintro ⟨v, hv, -⟩
      cases hv
  | ok url =>
    constructor
    · rintro ⟨r, hr, hP⟩
      obtain rfl := Except.ok.inj hr
      exact ⟨url, rfl, hP⟩
    · rintro ⟨v, hv, hP⟩
      obtain rfl := Except.ok.inj hv
      exact ⟨_, rfl, hP⟩

/-- **When paths are relative to the endpoint.** Of a client with an endpoint of the web, a request
for a simple path can be made that has the scheme, the host and the port of the endpoint, and its
path with the other one behind it: just if the endpoint can have a path behind it. If so, the same
is true of the endpoint as it was given, with slashes at its end. -/
theorem Client.request_relative_iff {o : ClientOptions} {registry r₁ : Registry} {c : Client}
    (hbuild : build o registry = (.done c, r₁)) :
    ∃ u, Url.parse o.endpoint = .ok u ∧ (u.IsWeb →
      (∀ l method path body, Url.IsSimplePath path →
        ((∃ r, c.request l method path body = .ok r ∧ r.url.SameOrigin u ∧
            r.url.pathText = ClientOptions.trimEndpoint u.pathText ++ path ∧
            r.url.fragment = none) ↔
          Url.IsExtensible o.endpoint u)) ∧
      (Url.IsExtensible o.endpoint u → ∀ endpoint,
        ClientOptions.trimEndpoint endpoint = o.endpoint →
          ∃ v, Url.parse endpoint = .ok v ∧ v.SameOrigin u ∧
            ClientOptions.trimEndpoint v.pathText = ClientOptions.trimEndpoint u.pathText)) := by
  obtain ⟨hendpoint, u, hu⟩ := ClientOptions.endpoint_of_checked (checked_of_build hbuild)
  refine ⟨u, hu, fun hweb => ⟨fun l method path body hpath => ?_, fun hext endpoint htrim => ?_⟩⟩
  · let P (v : Url) : Prop := v.SameOrigin u ∧
      v.pathText = ClientOptions.trimEndpoint u.pathText ++ path ∧ v.fragment = none
    refine (exists_request_iff (P := P)).trans ?_
    rw [hendpoint, ← Url.exists_parse_iff hweb.ofScheme hu hpath]
    constructor
    · rintro ⟨v, hv, -, hvpath, hfragment⟩
      exact ⟨v, hv, hvpath, hfragment⟩
    · rintro ⟨v, hv, hvpath, hfragment⟩
      exact ⟨v, hv, Url.sameOrigin_of_parse hweb.ofScheme hpath.head?_eq hu hv, hvpath, hfragment⟩
  · obtain ⟨slashes, hslashes, heq⟩ := ClientOptions.eq_trimEndpoint_append endpoint
    rw [htrim] at heq
    obtain ⟨v, hv, hpath⟩ := hext.exists_parse hweb.ofScheme hu hslashes
    refine ⟨v, heq ▸ hv, ?_, hpath⟩
    cases slashes with
    | nil =>
      rw [String.ofList_nil, String.append_empty, hu] at hv
      obtain rfl := Except.ok.inj hv
      exact ⟨rfl, rfl, rfl⟩
    | cons c slashes =>
      obtain rfl := hslashes c List.mem_cons_self
      exact Url.sameOrigin_of_parse hweb.ofScheme (by simp) hu hv

namespace Loopback

/-- What a client is told whose endpoint was given with a version and slashes at its end. -/
def versioned : ClientOptions := ClientOptions.default.withEndpoint "http://[::1]/v1//"

/-- The same with a blank at the end. -/
def blurred : ClientOptions := ClientOptions.default.withEndpoint "http://[::1]/v1 "

/-- The client that is told so much. -/
def told (o : ClientOptions) : Client := { client with endpoint := o.endpoint, retry := .default }

theorem isSimplePath_servers : Url.IsSimplePath "/servers" := by
  refine ⟨["servers"], List.cons_ne_nil _ _, ?_, rfl⟩
  rw [List.forall_mem_singleton]
  exact ⟨by decide, by decide, by decide, List.all_eq_true.1 rfl⟩

/-- Paths are relative to the version. -/
theorem request_relative_iff_versioned :
    Client.build versioned .empty = (.done (told versioned), .empty) ∧
    ∃ u r, Url.parse "http://[::1]/v1" = .ok u ∧ u.IsWeb ∧ Url.IsSimplePath "/servers" ∧
      (told versioned).request .unbounded "GET" "/servers" none = .ok r ∧ r.url.SameOrigin u ∧
      r.url.pathText = "/v1/servers" := by
  have hbuild : Client.build versioned .empty = (.done (told versioned), .empty) := rfl
  obtain ⟨u, hu, hweb, hpath, hext⟩ : ∃ u, Url.parse versioned.endpoint = .ok u ∧ u.IsWeb ∧
      ClientOptions.trimEndpoint u.pathText = "/v1" ∧ Url.IsExtensible versioned.endpoint u := by
    refine ⟨_, rfl, .inl rfl, by decide, rfl, rfl, ?_, by decide⟩
    have hlast : (versioned.endpoint.toList.filter (!Url.isDropped ·)).getLast? = some '1' := by
      decide
    rw [hlast]
    rintro c ⟨⟩
    exact ⟨by decide, by simp [Url.IsSlash]⟩
  obtain ⟨u', hu', hrelative⟩ := Client.request_relative_iff hbuild
  obtain rfl := Except.ok.inj (hu.symm.trans hu')
  obtain ⟨r, hr, horigin, hrpath, -⟩ := ((hrelative hweb).1 .unbounded "GET" "/servers" none
    isSimplePath_servers).2 hext
  rw [hpath] at hrpath
  exact ⟨hbuild, u, r, hu, hweb, isSimplePath_servers, hr, horigin, hrpath⟩

/-- A blank that does not count in the endpoint counts in front of the path. -/
theorem not_relative_blurred :
    Client.build blurred .empty = (.done (told blurred), .empty) ∧
      Url.IsSimplePath "/servers" ∧ ∃ u, Url.parse blurred.endpoint = .ok u ∧ u.IsWeb ∧
        ¬ ∃ r, (told blurred).request .unbounded "GET" "/servers" none = .ok r ∧
          r.url.SameOrigin u ∧
          r.url.pathText = ClientOptions.trimEndpoint u.pathText ++ "/servers" ∧
          r.url.fragment = none := by
  obtain ⟨r, hr, hpath⟩ : ∃ r, (told blurred).request .unbounded "GET" "/servers" none = .ok r ∧
      r.url.pathText = "/v1%20/servers" := ⟨_, rfl, by decide⟩
  obtain ⟨u, hu, hweb, hroot⟩ : ∃ u, Url.parse blurred.endpoint = .ok u ∧ u.IsWeb ∧
      ClientOptions.trimEndpoint u.pathText ++ "/servers" = "/v1/servers" :=
    ⟨_, rfl, .inl rfl, by decide⟩
  refine ⟨rfl, isSimplePath_servers, u, hu, hweb, ?_⟩
  rintro ⟨r', hr', -, hrelative, -⟩
  obtain rfl := Except.ok.inj (hr.symm.trans hr')
  rw [hpath, hroot] at hrelative
  exact absurd hrelative (by decide)

end Loopback

end CloudClient
