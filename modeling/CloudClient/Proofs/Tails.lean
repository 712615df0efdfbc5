import CloudClient.Proofs.Targets

/-!
# What follows the authority

A URL is read from its text in order, and what has been read does not change what comes next. So of
two texts that have an authority in common, the second is read as the first one is, but for the
*tail*: all that follows the authority, which is a path, a query and a fragment.

* `Url.readHost` — what is read from the host on, step by step.
* `Url.parseAuthority_append` — an authority with a tail is read as the authority alone, and then
  has the parts of the tail.
* `Url.Splits` — the authority and the tail of an endpoint; every endpoint of the web has them
  (`Url.exists_splits`).
* `Url.Splits.parse_append` — what follows the endpoint only makes its tail longer, unless blanks
  come right behind the authority (`Url.Splits.not_parse_append`).
-/

namespace CloudClient

namespace Url

section Tails

variable {s rest tail : List Char} {scheme endpoint : String} {u v : Url}

/-- The URL with what this text has behind the authority: a path, a query and a fragment. -/
def withTail (u : Url) (tail : List Char) : Url :=
  { u with
    path := pathAfterAuthority .special (splitPath tail).1
    query := (queryAndFragment .special (splitPath tail).2).1
    fragment := (queryAndFragment .special (splitPath tail).2).2 }

theorem withTail_withTail (u : Url) (tail tail' : List Char) :
    (u.withTail tail).withTail tail' = u.withTail tail' := rfl

/-! ## Step by step -/

/-- What follows the authority does not matter for the user and the password. -/
theorem splitUserinfo_append_eq (hs : IsAuthority .special s)
    (hrest : IsPastAuthority .special rest) :
    splitUserinfo .special (s ++ rest) =
      ((splitUserinfo .special s).1, (splitUserinfo .special s).2 ++ rest) := by
  have hnil : IsPastAuthority .special [] := by
    intro c hc
    cases hc
  have hown := splitUserinfo_append hs hnil
  rw [List.append_nil, List.append_nil] at hown
  refine Prod.ext ?_ ((splitUserinfo_append hs hrest).trans (by rw [hown]))
  have htake := takeWhile_authority hs hnil
  rw [List.append_nil] at htake
  rw [splitUserinfo, splitUserinfo, takeWhile_authority hs hrest, htake]
  dsimp only
  split <;> rfl

/-- A port ends where the authority ends. -/
theorem splitPort_snd (hs : IsAuthority .special s) {p : Option Nat × List Char}
    (h : splitPort scheme (splitHost .special false s).2 = .ok p) : p.2 = [] := by
  rcases splitHost_append_blanks hs (fun _ h => absurd h List.not_mem_nil) false with
    heq | ⟨port, hport, heq⟩
  · rw [List.append_nil] at heq
    rw [heq] at h
    exact congrArg Prod.snd (Except.ok.inj h).symm
  · rw [List.append_nil, List.append_nil] at heq
    rw [heq, splitPort] at h
    generalize hrest : port.drop (port.takeWhile Char.isDigit).length = rest at h
    cases rest with
    | nil =>
      simp only [ite_eq_iff, reduceCtorEq, and_false, false_or, Except.ok.injEq] at h
      rcases h with ⟨-, ⟨-, rfl⟩ | ⟨-, rfl⟩⟩
      · rfl
      · rfl
    | cons c rest =>
      have hc : endsAuthority .special c = false :=
        hs c (hport (List.mem_of_mem_drop (hrest ▸ List.mem_cons_self)))
      simp [hc] at h

/-- What is read from the host on. A special scheme has one, so that a host that is missing is the
same error wherever it is noticed. -/
def readHost (scheme : String) (userinfo : Option (List Char)) (hostText after : List Char) :
    Except UrlError Url :=
  if hostText.isEmpty then .error .emptyHost
  else do
    let host ← Host.parseSpecial hostText
    if host.isEmpty ∧ after.head? = some ':' then .error .emptyHost
    else do
      let (port, rest) ← splitPort scheme after
      let (username, password) := credentials (userinfo.getD [])
      if host.isEmpty ∧ (username ≠ "" ∨ password.isSome) then .error .emptyHost
      else
        .ok <| withTail {
          scheme, username, password, port
          host := some host
          path := .segments []
          query := none
          fragment := none } rest

theorem parseAuthority_eq_readHost (scheme : String) (s : List Char) :
    parseAuthority scheme .special s = readHost scheme (splitUserinfo .special s).1
      (splitHost .special false (splitUserinfo .special s).2).1
      (splitHost .special false (splitUserinfo .special s).2).2 := by
  rw [parseAuthority, readHost]
  obtain ⟨userinfo, s'⟩ := splitUserinfo .special s
  dsimp only
  obtain ⟨hostText, after⟩ := splitHost .special false s'
  dsimp only
  cases hempty : hostText.isEmpty with
  | true =>
    split
    · rfl
    · rfl
  | false =>
    rw [if_neg (by simp), if_neg (by decide), if_neg (by decide), if_neg (by decide)]
    cases Host.parseSpecial hostText with
    | error e => rfl
    | ok host =>
      change (if host.isEmpty = true ∧ after.head? = some ':' then _ else _) = (if _ then _ else _)
      split
      · rfl
      · cases splitPort scheme after with
        | error e => rfl
        | ok p =>
          obtain ⟨port, rest⟩ := p
          change (if host.isEmpty = true ∧ _ then _ else _) = (if _ then _ else _)
          split
          · rfl
          · rfl

/-- **What follows an authority** is the path, the query and the fragment, and nothing else. -/
theorem parseAuthority_append (hs : IsAuthority .special s)
    (hrest : IsPastAuthority .special rest) :
    parseAuthority scheme .special (s ++ rest) =
      (parseAuthority scheme .special s).map (·.withTail rest) := by
  have hsub : IsAuthority .special (splitUserinfo .special s).2 :=
    fun c hc => hs c (splitUserinfo_subset hc)
  rw [parseAuthority_eq_readHost, parseAuthority_eq_readHost, splitUserinfo_append_eq hs hrest]
  dsimp only
  rw [splitHost_append hsub hrest]
  have hport : ∀ p, splitPort scheme
      (splitHost .special false (splitUserinfo .special s).2).2 = .ok p → p.2 = [] :=
    fun p => splitPort_snd hsub
  generalize splitHost .special false (splitUserinfo .special s).2 = host at hport ⊢
  obtain ⟨hostText, after⟩ := host
  dsimp only at hport ⊢
  have hcolon : (after ++ rest).head? = some ':' ↔ after.head? = some ':' := by
    cases after with
    | nil =>
      cases rest with
      | nil => rfl
      | cons c rest =>
        refine iff_of_false (fun h => ?_) nofun
        obtain rfl := Option.some.inj h
        exact absurd (hrest ':' rfl) (by decide)
    | cons c after => rfl
  rw [readHost, readHost, splitPort_append hrest]
  simp only [hcolon]
  split
  · rfl
  · cases Host.parseSpecial hostText with
    | error e => rfl
    | ok host =>
      change (if _ then _ else _) = Except.map _ (if _ then _ else _)
      split
      · rfl
      · cases hp : splitPort scheme after with
        | error e => rfl
        | ok p =>
          obtain ⟨port, end'⟩ := p
          obtain rfl : end' = [] := hport _ hp
          change (if _ then _ else _) = Except.map _ (if _ then _ else _)
          split
          · rfl
          · rfl

/-! ## Endpoints -/

theorem splitScheme?_suffix (h : splitScheme? s = some (scheme, rest)) : rest <:+ s := by
  rw [splitScheme?] at h
  split at h
  · rename_i c name after hname hafter
    split at h
    · obtain ⟨-, rfl⟩ : _ = scheme ∧ after = rest := by simpa using h
      exact (List.suffix_cons ':' after).trans (hafter ▸ List.drop_suffix _ _)
    · cases h
  · cases h

/-- The text of the endpoint of a URL ends in this authority and what follows it. -/
structure Splits (endpoint : String) (u : Url) (authority tail : List Char) : Prop where
  isAuthority : IsAuthority .special authority
  isPast : IsPastAuthority .special tail
  ne_nil : authority ≠ []
  suffix : authority ++ tail <:+ cleaned endpoint.toList
  parsed : parseAuthority u.scheme .special (authority ++ tail) = .ok u
  /-- a path behind the endpoint is behind the tail -/
  parse_eq : ∀ path : List Char, parse (endpoint ++ String.ofList ('/' :: path)) =
    parseAuthority u.scheme .special
      (authority ++ (tail ++ (blanksAtEnd endpoint.toList ++ '/' :: cleanedEnd path)))

/-- **Every endpoint of the web** has an authority and a tail. -/
theorem exists_splits (hkind : SchemeKind.ofScheme u.scheme = .special)
    (hu : parse endpoint = .ok u) : ∃ authority tail, Splits endpoint u authority tail := by
  obtain ⟨rest, hsplit⟩ := splitScheme?_of_parse hu
  simp only [parse, hsplit, hkind] at hu
  have hsuffix : (rest.dropWhile fun c => c == '/' || c == '\\') <:+ cleaned endpoint.toList :=
    (List.dropWhile_suffix _).trans (splitScheme?_suffix hsplit)
  obtain ⟨authority, tail, hstart, hauthority, hpast⟩ :=
    exists_authority .special (rest.dropWhile fun c => c == '/' || c == '\\')
  rw [hstart] at hu hsuffix
  have hne : authority ≠ [] := by
    rintro rfl
    obtain ⟨-, ⟨host, -, hparse⟩, -⟩ := parseAuthority_inv hu
    have hnil : hostPart [] = [] := rfl
    rw [splitUserinfo_append hauthority hpast, hnil, splitHost_append hauthority hpast] at hparse
    exact (hparse (by decide)).1 rfl
  refine ⟨authority, tail, hauthority, hpast, hne, hsuffix, hu, fun path => ?_⟩
  have hsome : (rest.dropWhile fun c => c == '/' || c == '\\') ≠ [] := by
    rw [hstart]
    exact List.append_ne_nil_of_left_ne_nil hne _
  rw [parse, String.toList_append, String.toList_ofList, cleaned_append, List.append_assoc,
    splitScheme?_append hsplit]
  simp only [hkind]
  rw [List.dropWhile_append, if_neg (by simpa using hsome), hstart, List.append_assoc]

namespace Splits

variable {authority : List Char}

/-- The URL is what the authority is read as, with the tail. -/
theorem exists_parseAuthority (h : Splits endpoint u authority tail) :
    ∃ v, parseAuthority u.scheme .special authority = .ok v ∧ v.withTail tail = u := by
  have hparsed := h.parsed
  rw [parseAuthority_append h.isAuthority h.isPast] at hparsed
  cases hown : parseAuthority u.scheme .special authority with
  | error e =>
    rw [hown] at hparsed
    cases hparsed
  | ok v =>
    rw [hown] at hparsed
    exact ⟨v, rfl, Except.ok.inj hparsed⟩

theorem withTail_eq (h : Splits endpoint u authority tail) : u.withTail tail = u := by
  obtain ⟨v, -, hv⟩ := h.exists_parseAuthority
  rw [← hv, withTail_withTail]

/-- **What is read if the tail goes on** differs in the tail only. -/
theorem parse_append (h : Splits endpoint u authority tail) {path : List Char}
    (hpast : IsPastAuthority .special
      (tail ++ (blanksAtEnd endpoint.toList ++ '/' :: cleanedEnd path))) :
    parse (endpoint ++ String.ofList ('/' :: path)) =
      .ok (u.withTail (tail ++ (blanksAtEnd endpoint.toList ++ '/' :: cleanedEnd path))) := by
  obtain ⟨v, hown, hv⟩ := h.exists_parseAuthority
  rw [h.parse_eq, parseAuthority_append h.isAuthority hpast, hown, ← hv, withTail_withTail]
  rfl

/-- Blanks right behind the authority make the URL be refused. -/
theorem not_parse_append (h : Splits endpoint u authority []) {path : List Char}
    (hblanks : blanksAtEnd endpoint.toList ≠ []) :
    parse (endpoint ++ String.ofList ('/' :: path)) ≠ .ok v := by
  intro hv
  rw [h.parse_eq, List.nil_append, ← List.append_assoc] at hv
  have ht : ∀ c ∈ blanksAtEnd endpoint.toList, c.toNat ≤ 0x20 := fun c hc =>
    blank_of_mem_blanksAtEnd hc
  have hslash : IsPastAuthority .special ('/' :: cleanedEnd path) := by
    rintro c ⟨⟩
    rfl
  exact not_reads_append_blanks h.isAuthority ht hblanks
    (reads_of_parseAuthority (h.isAuthority.append_blanks ht) hslash hv)

end Splits

end Tails

end Url

end CloudClient
