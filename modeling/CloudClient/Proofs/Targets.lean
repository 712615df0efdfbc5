import CloudClient.Proofs.Origins
import CloudClient.Proofs.QueryRoundTrip

/-!
# What a target asks with

A server gets the target of a request as one text, and takes what stands behind the first question
mark for the query. That is the query of the URL, as no path that was read from a text has a
question mark in it: a path ends where the query starts, and in its segments the sign is encoded.

* `Percent.of_mem_encode` — a sign that is encoded does not stand in what is written.
* `Url.hasTail_of_parse` — so there is none in the path of a URL that was read.
* `Url.query_of_parse` — and a text without a question mark brings no query along.
* `Url.targetParameters_target` — the parameters of the target are those of the query.
-/

namespace CloudClient

/-! ## Encoded signs -/

theorem Percent.isAlphanum_hexDigit : ∀ n < 16, (hexDigit n).isAlphanum = true := by decide

/-- **A sign that is written stands for itself**, or encoding has brought it in. -/
theorem Percent.of_mem_encode {set : CharSet} {c : Char} {s : List Char} (h : c ∈ encode set s)
    (hplain : c.isAlphanum = false) (hpercent : c ≠ '%') : c ∈ s ∧ set c = false := by
  obtain ⟨d, hd, hc⟩ := List.mem_flatMap.1 h
  rw [encodeChar] at hc
  split at hc
  · obtain ⟨b, -, hb⟩ := List.mem_flatMap.1 hc
    have hlt : b.toNat < 256 := b.toNat_lt
    simp only [encodeByte, List.mem_cons, List.not_mem_nil, or_false] at hb
    rcases hb with hb | rfl | rfl
    · exact absurd hb hpercent
    · rw [isAlphanum_hexDigit _ (by omega)] at hplain
      cases hplain
    · rw [isAlphanum_hexDigit _ (by omega)] at hplain
      cases hplain
  · rename_i hnot
    obtain rfl := List.mem_singleton.1 hc
    exact ⟨hd, Bool.not_eq_true _ ▸ hnot⟩

namespace Url

/-! ## Paths -/

section Paths

variable {kind : SchemeKind}

theorem notMem_writtenSegment {segment : List Char} (h : '?' ∉ segment) :
    '?' ∉ writtenSegment kind segment := by
  rw [writtenSegment.eq_def]
  split
  · split
    · intro hmem
      simp only [List.mem_cons, List.not_mem_nil, or_false] at h hmem
      rcases hmem with hc | hc
      · exact h (.inl hc)
      · exact absurd hc (by decide)
    · exact h
  · exact h

theorem stepUp_subset (path : List (List Char)) : stepUp kind path ⊆ path := by
  cases path with
  | nil => exact List.Subset.refl _
  | cons segment rest =>
    rw [stepUp]
    split
    · exact List.Subset.refl _
    · exact List.subset_cons_self _ _

/-- Steps along segments bring no question mark in. -/
theorem notMem_walk {path segments : List (List Char)} (h : ∀ segment ∈ path, '?' ∉ segment) :
    ∀ segment ∈ walk kind path segments, '?' ∉ segment := by
  have hempty : ∀ path : List (List Char), (∀ segment ∈ path, '?' ∉ segment) →
      ∀ isLast : Bool, ∀ segment ∈ (if isLast then [] :: path else path), '?' ∉ segment := by
    intro path h isLast
    cases isLast with
    | true => exact List.forall_mem_cons.2 ⟨List.not_mem_nil, h⟩
    | false => exact h
  induction segments generalizing path with
  | nil => exact h
  | cons segment rest ih =>
    rw [walk]
    split
    · exact ih (hempty _ (fun t ht => h t (stepUp_subset path ht)) rest.isEmpty)
    · split
      · exact ih (hempty _ h rest.isEmpty)
      · have hwritten : '?' ∉ Percent.encode Percent.pathSet segment := fun hmem =>
          Bool.noConfusion (Percent.of_mem_encode hmem rfl (by decide)).2
        exact ih (List.forall_mem_cons.2 ⟨notMem_writtenSegment hwritten, h⟩)

theorem notMem_resolved (segments : List (List Char)) :
    ∀ segment ∈ resolved kind segments, '?' ∉ segment.toList := by
  have hwalk : ∀ segment ∈ (walk kind [] segments).reverse, '?' ∉ segment := fun segment h =>
    notMem_walk (fun _ h => absurd h List.not_mem_nil) segment (List.mem_reverse.1 h)
  intro segment h
  rw [resolved] at h
  obtain ⟨chars, hchars, rfl⟩ := List.mem_map.1 h
  rw [String.toList_ofList]
  split at hchars
  · split at hchars
    · obtain rfl := List.mem_singleton.1 hchars
      exact List.not_mem_nil
    · exact hwalk chars ((List.dropWhile_sublist _).subset hchars)
  · exact hwalk chars hchars

theorem notMem_text_segments {segments : List String} (h : ∀ s ∈ segments, '?' ∉ s.toList) :
    '?' ∉ (UrlPath.segments segments).text.toList := by
  rw [UrlPath.text, String.toList_join, List.mem_flatMap]
  rintro ⟨text, htext, hmem⟩
  obtain ⟨s, hs, rfl⟩ := List.mem_map.1 htext
  rw [String.toList_append, List.mem_append] at hmem
  rcases hmem with hmem | hmem
  · revert hmem
    decide
  · exact h s hs hmem

theorem notMem_pathAfterAuthority (s : List Char) :
    '?' ∉ (pathAfterAuthority kind s).text.toList := by
  rw [pathAfterAuthority.eq_def]
  split
  · exact notMem_text_segments (notMem_resolved _)
  · split
    · exact notMem_text_segments fun _ h => absurd h List.not_mem_nil
    · exact notMem_text_segments (notMem_resolved _)
  · split
    · exact notMem_text_segments (notMem_resolved _)
    · exact notMem_text_segments (notMem_resolved _)

theorem notMem_splitPath (s : List Char) : '?' ∉ (splitPath s).1 := by
  intro h
  have hc := List.all_eq_true.1 List.all_takeWhile _ h
  simp at hc

end Paths

/-! ## The texts that parts are read from -/

section Rests

variable {kind : SchemeKind} {s : List Char} {scheme : String} {u : Url}

theorem splitUserinfo_subset : (splitUserinfo kind s).2 ⊆ s := by
  rw [splitUserinfo]
  dsimp only
  split
  · exact List.drop_subset _ _
  · exact List.Subset.refl _

theorem splitHost_subset (inBrackets : Bool) : (splitHost kind inBrackets s).2 ⊆ s := by
  induction s generalizing inBrackets with
  | nil =>
    rw [splitHost]
    exact List.Subset.refl _
  | cons c s ih =>
    rw [splitHost]
    split
    · exact List.Subset.refl _
    · exact List.subset_cons_of_subset c (ih _)

theorem splitPort_subset {p : Option Nat × List Char} (h : splitPort scheme s = .ok p) :
    p.2 ⊆ s := by
  rw [splitPort.eq_def] at h
  split at h
  · rename_i rest
    have hrest : ∀ n, rest.drop n ⊆ ':' :: rest := fun n =>
      List.subset_cons_of_subset _ (List.drop_subset _ _)
    generalize rest.takeWhile Char.isDigit = digits at h
    simp only [ite_eq_iff, reduceCtorEq, and_false, false_or, Except.ok.injEq] at h
    obtain ⟨-, ⟨-, rfl⟩ | ⟨-, rfl⟩⟩ := h
    · exact hrest _
    · exact hrest _
  · obtain rfl := Except.ok.inj h
    exact List.Subset.refl _

theorem splitPath_subset : (splitPath s).2 ⊆ s := (List.dropWhile_sublist _).subset

/-- Only a question mark starts a query. -/
theorem queryAndFragment_notMem (h : '?' ∉ s) : (queryAndFragment kind s).1 = none := by
  rw [queryAndFragment.eq_def]
  dsimp only
  split
  · exact absurd List.mem_cons_self h
  · rfl
  · rfl

/-- The path of the URL has no question mark, and the query has been read from a part of the
text. -/
structure HasTail (s : List Char) (u : Url) : Prop where
  notMem_pathText : '?' ∉ u.pathText.toList
  query_eq : ∃ kind, ∃ rest ⊆ s, u.query = (queryAndFragment kind rest).1

theorem HasTail.mono {t : List Char} (h : HasTail s u) (hsub : s ⊆ t) : HasTail t u := by
  obtain ⟨hpath, kind, rest, hrest, hquery⟩ := h
  exact ⟨hpath, kind, rest, List.Subset.trans hrest hsub, hquery⟩

theorem hasTail_of_parseAuthority (h : parseAuthority scheme kind s = .ok u) : HasTail s u := by
  simp -zeta -zetaHave only [parseAuthority] at h
  extract_lets finish start at h
  have hfinish : ∀ host, finish host = .ok u → HasTail s u := by
    intro host h
    simp only [finish] at h
    split at h
    · cases h
    obtain ⟨⟨port, rest⟩, hport, h⟩ := exists_of_bind_eq_ok h
    split at h
    · cases h
    obtain rfl := Except.ok.inj h
    have hrest : (splitPath rest).2 ⊆ s :=
      List.Subset.trans splitPath_subset (List.Subset.trans (splitPort_subset hport)
        (List.Subset.trans (splitHost_subset false) splitUserinfo_subset))
    exact ⟨notMem_pathAfterAuthority _, kind, _, hrest, rfl⟩
  split at h
  · cases h
  simp only [start] at h
  split at h
  · obtain ⟨host, -, h⟩ := exists_of_bind_eq_ok h
    exact hfinish host h
  · split at h
    · cases h
    obtain ⟨host, -, h⟩ := exists_of_bind_eq_ok h
    exact hfinish host h

theorem splitFileHost_subset {p : Host × List Char} (h : splitFileHost s = .ok p) : p.2 ⊆ s := by
  rw [splitFileHost] at h
  split at h
  · obtain rfl := Except.ok.inj h
    exact List.Subset.refl _
  · obtain ⟨host, -, h⟩ := exists_of_bind_eq_ok h
    obtain rfl := Except.ok.inj h
    exact List.drop_subset _ _

theorem hasTail_of_parseFile (h : parseFile scheme s = .ok u) : HasTail s u := by
  unfold parseFile at h
  extract_lets isSlash finish at h
  have hfinish : ∀ {start : Except UrlError (Host × List Char)},
      start >>= finish = .ok u → (∀ p, start = .ok p → p.2 ⊆ s) → HasTail s u := by
    intro start h hstart
    obtain ⟨p, hp, h⟩ := exists_of_bind_eq_ok h
    obtain rfl := Except.ok.inj h
    exact ⟨notMem_text_segments (notMem_resolved _), .file, _,
      List.Subset.trans splitPath_subset (hstart p hp), rfl⟩
  have hwhole : ∀ p, (pure (.name "", s) : Except UrlError (Host × List Char)) = .ok p →
      p.2 ⊆ s := by
    intro p hp
    obtain rfl := Except.ok.inj hp
    exact List.Subset.refl _
  split at h
  · split at h
    · exact hfinish h fun p hp => List.subset_cons_of_subset _ (List.subset_cons_of_subset _
        (splitFileHost_subset hp))
    · exact hfinish h hwhole
  · exact hfinish h hwhole

theorem hasTail_parseOther : HasTail s (parseOther scheme s) := by
  refine ⟨?_, .other, _, splitPath_subset, rfl⟩
  rw [parseOther]
  dsimp only
  split
  · exact notMem_text_segments (notMem_resolved _)
  · change '?' ∉ (String.ofList (Percent.encode Percent.controls (splitPath s).1)).toList
    rw [String.toList_ofList]
    exact fun h => notMem_splitPath s (Percent.of_mem_encode h rfl (by decide)).1

end Rests

/-! ## The whole -/

variable {s : String} {u : Url}

theorem cleaned_subset (s : List Char) : cleaned s ⊆ s := by
  intro c hc
  have hc := (List.mem_filter.1 hc).1
  rw [List.mem_reverse] at hc
  have hc := (List.dropWhile_sublist _).subset hc
  rw [List.mem_reverse] at hc
  exact (List.dropWhile_sublist _).subset hc

theorem splitScheme?_subset {s rest : List Char} {scheme : String}
    (h : splitScheme? s = some (scheme, rest)) : rest ⊆ s := by
  rw [splitScheme?] at h
  split at h
  · rename_i hdrop
    split at h
    · obtain ⟨-, rfl⟩ := Prod.mk.inj (Option.some.inj h)
      exact List.Subset.trans (hdrop ▸ List.subset_cons_self _ _) (List.drop_subset _ _)
    · cases h
  · cases h

/-- **Every URL that is read** has a path without a question mark, and its query is part of the
text. -/
theorem hasTail_of_parse (h : parse s = .ok u) : HasTail s.toList u := by
  rw [parse] at h
  split at h
  · cases h
  · rename_i scheme rest hscheme
    have hrest : rest ⊆ s.toList :=
      List.Subset.trans (splitScheme?_subset hscheme) (cleaned_subset _)
    split at h
    · exact (hasTail_of_parseFile h).mono hrest
    · exact (hasTail_of_parseAuthority h).mono
        (List.Subset.trans (List.dropWhile_sublist _).subset hrest)
    · split at h
      · exact (hasTail_of_parseAuthority h).mono (List.Subset.trans
          (List.subset_cons_of_subset _ (List.subset_cons_self _ _)) hrest)
      · obtain rfl := Except.ok.inj h
        exact hasTail_parseOther.mono hrest

/-- **A text without a question mark brings no query along.** -/
theorem query_of_parse (h : parse s = .ok u) (hmark : '?' ∉ s.toList) : u.query = none := by
  obtain ⟨-, kind, rest, hrest, hquery⟩ := hasTail_of_parse h
  rw [hquery, queryAndFragment_notMem fun hmem => hmark (hrest hmem)]

/-- The parameters that a target asks with: they stand behind its first question mark. -/
def targetParameters (target : String) : List (String × String) :=
  Form.decode ((target.toList.dropWhile (· ≠ '?')).drop 1)

/-- **The parameters of the target are those of the query.** -/
theorem targetParameters_target (h : '?' ∉ u.pathText.toList) :
    targetParameters u.target = u.parameters := by
  have hpath : ∀ c ∈ u.pathText.toList, decide (c ≠ '?') = true := by
    intro c hc
    rw [decide_eq_true_eq]
    rintro rfl
    exact h hc
  rw [targetParameters, target, parameters, String.toList_append,
    List.dropWhile_append_of_pos hpath]
  cases u.query with
  | none => rfl
  | some query => simp

/-- Parameters are added to the query and to nothing else. -/
theorem withParameters_eq (u : Url) (pairs : List (String × String)) :
    ∃ query, u.withParameters pairs = { u with query } := by
  rw [withParameters]
  split
  · exact ⟨u.query, rfl⟩
  · split <;> exact ⟨_, rfl⟩

end Url

end CloudClient
