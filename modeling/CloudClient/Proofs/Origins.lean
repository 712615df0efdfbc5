import CloudClient.Proofs.BlankHosts
import CloudClient.Proofs.Credentials
import CloudClient.Proofs.Loopback
import CloudClient.Url.Parser

/-!
# Requests stay with the endpoint

The URL of a request is read from the endpoint and the path, put together as texts. What a reader of
URLs makes of a text can depend on all of it: a path may bring in an `@` or a colon, and blanks at
the end of the endpoint, which do not count there, are no longer at the end. Still the request goes
where the endpoint is.

* `Url.cleaned_append` — with a path behind it, an endpoint has its blanks back.
* `Url.Reads` — the host and the port are read from the authority, the text up to the first slash
  behind the scheme; nothing that follows it matters.
* `Url.not_reads_append_blanks` — an authority does not end in blanks, so the blanks are there in
  vain: the URL is refused.
* `Url.sameOrigin_of_parse` — what is read has the scheme, the host and the port of the endpoint.
* `Client.request_sameOrigin` — all requests of a client go where its endpoint is.
-/

namespace CloudClient

namespace Url

/-- The port that is asked for. -/
def effectivePort? (u : Url) : Option Nat := u.port.or (SchemeKind.defaultPort? u.scheme)

/-- The URLs have the same scheme, host and port. -/
structure SameOrigin (u v : Url) : Prop where
  scheme : u.scheme = v.scheme
  host : u.host = v.host
  port : u.effectivePort? = v.effectivePort?

/-! ## The authority -/

section Authority

variable {kind : SchemeKind} {s t rest : List Char} {scheme : String} {u v : Url}

/-- Nothing in the text ends the authority. -/
def IsAuthority (kind : SchemeKind) (s : List Char) : Prop := ∀ c ∈ s, endsAuthority kind c = false

/-- The authority has ended where the text starts. -/
def IsPastAuthority (kind : SchemeKind) (s : List Char) : Prop :=
  ∀ c ∈ s.head?, endsAuthority kind c = true

theorem endsAuthority_blank {c : Char} (hc : c.toNat ≤ 0x20) : endsAuthority kind c = false := by
  cases kind <;> exact forall_blank (P := fun c => endsAuthority _ c = false) (by decide) hc

theorem IsAuthority.append_blanks (hs : IsAuthority kind s) (ht : ∀ c ∈ t, c.toNat ≤ 0x20) :
    IsAuthority kind (s ++ t) := by
  intro c hc
  rcases List.mem_append.1 hc with hc | hc
  · exact hs c hc
  · exact endsAuthority_blank (ht c hc)

theorem takeWhile_authority (hs : IsAuthority kind s) (hrest : IsPastAuthority kind rest) :
    (s ++ rest).takeWhile (!endsAuthority kind ·) = s := by
  have hnone : rest.takeWhile (!endsAuthority kind ·) = [] := by
    cases rest with
    | nil => rfl
    | cons c rest => simp [hrest c rfl]
  have hpos : ∀ c ∈ s, (!endsAuthority kind c) = true := fun c hc => by rw [hs c hc]; rfl
  rw [List.takeWhile_append_of_pos hpos, hnone, List.append_nil]

/-- Every text is an authority and what follows it. -/
theorem exists_authority (kind : SchemeKind) (s : List Char) : ∃ authority rest,
    s = authority ++ rest ∧ IsAuthority kind authority ∧ IsPastAuthority kind rest := by
  refine ⟨s.takeWhile (!endsAuthority kind ·), s.dropWhile (!endsAuthority kind ·),
    List.takeWhile_append_dropWhile.symm, fun c hc => ?_, fun c hc => ?_⟩
  · simpa using List.all_eq_true.1 List.all_takeWhile c hc
  · have hhead := List.head?_dropWhile_not (!endsAuthority kind ·) s
    rw [Option.mem_def.1 hc] at hhead
    simpa using hhead

/-- The text behind the last `@`. -/
def hostPart (s : List Char) : List Char := (s.reverse.takeWhile (· ≠ '@')).reverse

theorem hostPart_append (ht : '@' ∉ t) : hostPart (s ++ t) = hostPart s ++ t := by
  have hpos : ∀ c ∈ t.reverse, decide (c ≠ '@') = true := by
    intro c hc
    rw [decide_eq_true_eq]
    rintro rfl
    exact ht (List.mem_reverse.1 hc)
  rw [hostPart, List.reverse_append, List.takeWhile_append_of_pos hpos, List.reverse_append,
    List.reverse_reverse, hostPart]

theorem hostPart_subset : hostPart s ⊆ s := by
  intro c hc
  exact List.mem_reverse.1 ((List.takeWhile_sublist _).subset (List.mem_reverse.1 hc))

theorem hostPart_of_notMem (hs : '@' ∉ s) : hostPart s = s := hostPart_append (s := []) hs

theorem hostPart_append_cons {user host : List Char} (hhost : '@' ∉ host) :
    hostPart (user ++ '@' :: host) = host := by
  have hcons : user ++ '@' :: host = (user ++ ['@']) ++ host := by simp
  rw [hcons, hostPart_append hhost]
  simp [hostPart]

/-- The user and the password stand in front of the host, and what follows the authority does not
matter. -/
theorem splitUserinfo_append (hs : IsAuthority kind s) (hrest : IsPastAuthority kind rest) :
    (splitUserinfo kind (s ++ rest)).2 = hostPart s ++ rest := by
  rw [splitUserinfo, takeWhile_authority hs hrest]
  dsimp only
  split
  · rename_i hat
    obtain ⟨user, host, rfl, hhost⟩ : ∃ user host, s = user ++ '@' :: host ∧ '@' ∉ host := by
      have hmem : '@' ∈ s.reverse := by simpa using hat
      obtain ⟨host, user, hreverse, hhost⟩ := List.eq_append_cons_of_mem hmem
      refine ⟨user.reverse, host.reverse, ?_, by simpa using hhost⟩
      rw [← List.reverse_reverse s, hreverse]
      simp
    have hpart : ((user ++ '@' :: host).reverse.takeWhile (· ≠ '@')).reverse = host :=
      hostPart_append_cons hhost
    have hlength : ((user ++ '@' :: host).take
        ((user ++ '@' :: host).length - host.length - 1)).length + 1 = (user ++ ['@']).length := by
      simp
      omega
    have hcons : user ++ '@' :: host ++ rest = (user ++ ['@']) ++ (host ++ rest) := by simp
    rw [hostPart_append_cons hhost, hpart, hlength, hcons, List.drop_left]
  · rename_i hat
    rw [hostPart_of_notMem (by simpa using hat)]

/-- What follows the authority does not matter for the host. -/
theorem splitHost_append (hs : IsAuthority kind s) (hrest : IsPastAuthority kind rest)
    (inBrackets : Bool) :
    splitHost kind inBrackets (s ++ rest) =
      ((splitHost kind inBrackets s).1, (splitHost kind inBrackets s).2 ++ rest) := by
  induction s generalizing inBrackets with
  | nil =>
    cases rest with
    | nil => simp [splitHost]
    | cons c rest => simp [splitHost, hrest c rfl]
  | cons c s ih =>
    have hown : IsAuthority kind s := fun d hd => hs d (List.mem_cons_of_mem c hd)
    rw [List.cons_append, splitHost, splitHost]
    split
    · rfl
    · dsimp only
      rw [ih hown]

/-- Blanks at the end of an authority belong to the host, or to the port if there is one. -/
theorem splitHost_append_blanks (hs : IsAuthority kind s) (ht : ∀ c ∈ t, c.toNat ≤ 0x20)
    (inBrackets : Bool) :
    splitHost kind inBrackets (s ++ t) = ((splitHost kind inBrackets s).1 ++ t, []) ∨
      ∃ port, port ⊆ s ∧
        splitHost kind inBrackets (s ++ t) =
          ((splitHost kind inBrackets s).1, ':' :: (port ++ t)) := by
  induction s generalizing inBrackets with
  | nil =>
    refine .inl ?_
    rw [List.nil_append]
    induction t with
    | nil => simp [splitHost]
    | cons c t ih =>
      have hc : c.toNat ≤ 0x20 := ht c List.mem_cons_self
      have hcolon : c ≠ ':' := ne_of_blank hc (by decide)
      have hopen : c ≠ '[' := ne_of_blank hc (by decide)
      have hclose : c ≠ ']' := ne_of_blank hc (by decide)
      have ih := ih fun d hd => ht d (List.mem_cons_of_mem c hd)
      simp [splitHost, hcolon, hopen, hclose, endsAuthority_blank hc, ih]
  | cons c s ih =>
    have hown : IsAuthority kind s := fun d hd => hs d (List.mem_cons_of_mem c hd)
    rw [List.cons_append, splitHost, splitHost]
    split
    · rename_i hends
      obtain ⟨rfl, -⟩ : c = ':' ∧ (!inBrackets) = true :=
        hends.resolve_right (by simp [hs c List.mem_cons_self])
      exact .inr ⟨s, List.subset_cons_self _ _, rfl⟩
    · dsimp only
      rcases ih hown (if c = '[' then true else if c = ']' then false else inBrackets) with
        heq | ⟨port, hport, heq⟩
      · exact .inl (by rw [heq]; rfl)
      · exact .inr ⟨port, List.subset_cons_of_subset c hport, by rw [heq]⟩

/-- What ends the authority is no digit. -/
theorem isDigit_of_endsAuthority {c : Char} (hc : endsAuthority .special c = true) :
    c.isDigit = false := by
  simp only [endsAuthority, Bool.or_eq_true, Bool.and_eq_true, beq_iff_eq] at hc
  rcases hc with ((rfl | rfl) | rfl) | ⟨-, rfl⟩ <;> rfl

theorem takeWhile_isDigit (hrest : IsPastAuthority .special rest) :
    (s ++ rest).takeWhile Char.isDigit = s.takeWhile Char.isDigit := by
  have hnone : rest.takeWhile Char.isDigit = [] := by
    cases rest with
    | nil => rfl
    | cons c rest => simp [isDigit_of_endsAuthority (hrest c rfl)]
  rw [List.takeWhile_append, hnone, List.append_nil]
  split
  · rename_i hlength
    exact ((List.takeWhile_prefix _).eq_of_length hlength).symm
  · rfl

/-- What follows the authority does not matter for the port. -/
theorem splitPort_append (hrest : IsPastAuthority .special rest) :
    splitPort scheme (s ++ rest) = (splitPort scheme s).map fun p => (p.1, p.2 ++ rest) := by
  cases s with
  | nil =>
    rw [List.nil_append, splitPort.eq_def]
    split
    · rename_i port
      exact absurd (hrest ':' rfl) (by decide)
    · rfl
  | cons c s =>
    by_cases hc : c = ':'
    · subst hc
      have hle : (s.takeWhile Char.isDigit).length ≤ s.length :=
        (List.takeWhile_sublist _).length_le
      rw [List.cons_append, splitPort, splitPort, takeWhile_isDigit hrest,
        List.drop_append_of_le_length hle]
      rw [apply_ite (Except.map _), apply_ite (Except.map _)]
      generalize s.drop (s.takeWhile Char.isDigit).length = after
      cases after with
      | nil =>
        -- the port ends where the authority ends
        cases rest with
        | nil => rfl
        | cons c rest => simp [Except.map, hrest c rfl]
      | cons c after => rfl
    · rw [List.cons_append, splitPort.eq_def, splitPort.eq_def]
      simp [hc]
      rfl

/-- No port ends in blanks. -/
theorem splitPort_append_blanks {port : List Char} (hport : IsAuthority .special port)
    (ht : ∀ c ∈ t, c.toNat ≤ 0x20) (hne : t ≠ []) (p : Option Nat × List Char) :
    splitPort scheme (':' :: (port ++ t)) ≠ .ok p := by
  have hall : IsAuthority .special (port ++ t) := hport.append_blanks ht
  obtain ⟨c, hc⟩ := List.exists_mem_of_ne_nil t hne
  have hdigit : c.isDigit = false :=
    forall_blank (P := fun c => c.isDigit = false) (by decide) (ht c hc)
  have hafter : (port ++ t).drop ((port ++ t).takeWhile Char.isDigit).length ≠ [] := by
    intro hnil
    have hmem : c ∈ (port ++ t).takeWhile Char.isDigit := by
      have hle := List.drop_eq_nil_iff.1 hnil
      have heq := (List.takeWhile_prefix Char.isDigit).eq_of_length_le hle
      rw [heq]
      exact List.mem_append_right port hc
    have hc := List.all_eq_true.1 List.all_takeWhile c hmem
    rw [hdigit] at hc
    cases hc
  rw [splitPort]
  cases hdrop : (port ++ t).drop ((port ++ t).takeWhile Char.isDigit).length with
  | nil => exact absurd hdrop hafter
  | cons d after =>
    have hd : endsAuthority .special d = false :=
      hall d (List.mem_of_mem_drop (hdrop ▸ List.mem_cons_self))
    simp [hd]

/-- The scheme, the host and the port of the URL are what the authority says. -/
structure Reads (name : String) (authority : List Char) (u : Url) : Prop where
  scheme : u.scheme = name
  host : ∃ host, Host.parseSpecial (splitHost .special false (hostPart authority)).1 = .ok host ∧
    u.host = some host
  port : ∃ rest, splitPort name (splitHost .special false (hostPart authority)).2 =
    .ok (u.port, rest)

/-- Two URLs with one authority. -/
theorem Reads.sameOrigin (hv : Reads scheme s v) (hu : Reads scheme s u) : v.SameOrigin u := by
  obtain ⟨hvscheme, ⟨host, hhost, hvhost⟩, ⟨rest, hvport⟩⟩ := hv
  obtain ⟨huscheme, ⟨host', hhost', huhost⟩, ⟨rest', huport⟩⟩ := hu
  have hscheme : v.scheme = u.scheme := hvscheme.trans huscheme.symm
  obtain rfl : host = host' := Except.ok.inj (hhost.symm.trans hhost')
  have hport : v.port = u.port := congrArg Prod.fst (Except.ok.inj (hvport.symm.trans huport))
  refine ⟨hscheme, hvhost.trans huhost.symm, ?_⟩
  rw [effectivePort?, effectivePort?, hport, hscheme]

theorem exists_of_bind_eq_ok {ε α β : Type} {x : Except ε α} {f : α → Except ε β} {b : β}
    (h : x >>= f = .ok b) : ∃ a, x = .ok a ∧ f a = .ok b := by
  cases x with
  | error e => cases h
  | ok a => exact ⟨a, rfl, h⟩

/-- What is read from an authority and what follows it. -/
theorem parseAuthority_inv (h : parseAuthority scheme kind s = .ok u) :
    u.scheme = scheme ∧
      (∃ host, u.host = some host ∧ (kind ≠ .other →
        (splitHost kind false (splitUserinfo kind s).2).1 ≠ [] ∧
          Host.parseSpecial (splitHost kind false (splitUserinfo kind s).2).1 = .ok host)) ∧
      ∃ rest, splitPort scheme (splitHost kind false (splitUserinfo kind s).2).2 =
        .ok (u.port, rest) := by
  simp -zeta -zetaHave only [parseAuthority] at h
  extract_lets finish start at h
  have hfinish : ∀ host, finish host = .ok u → u.scheme = scheme ∧ u.host = some host ∧
      ∃ rest, splitPort scheme (splitHost kind false (splitUserinfo kind s).2).2 =
        .ok (u.port, rest) := by
    intro host h
    simp only [finish] at h
    split at h
    · cases h
    obtain ⟨⟨port, rest⟩, hport, h⟩ := exists_of_bind_eq_ok h
    split at h
    · cases h
    obtain rfl := Except.ok.inj h
    exact ⟨rfl, rfl, rest, hport⟩
  split at h
  · cases h
  simp only [start] at h
  split at h
  · rename_i hkind
    obtain ⟨host, -, h⟩ := exists_of_bind_eq_ok h
    obtain ⟨hscheme, hhost, hport⟩ := hfinish host h
    exact ⟨hscheme, ⟨host, hhost, fun hne => absurd hkind hne⟩, hport⟩
  · split at h
    · cases h
    rename_i hempty
    obtain ⟨host, hparse, h⟩ := exists_of_bind_eq_ok h
    obtain ⟨hscheme, hhost, hport⟩ := hfinish host h
    exact ⟨hscheme, ⟨host, hhost, fun _ => ⟨by simpa using hempty, hparse⟩⟩, hport⟩

/-- What follows the authority does not matter for the host and the port. -/
theorem reads_of_parseAuthority (hs : IsAuthority .special s)
    (hrest : IsPastAuthority .special rest)
    (h : parseAuthority scheme .special (s ++ rest) = .ok u) : Reads scheme s u := by
  obtain ⟨hscheme, ⟨host, hhost, hparse⟩, hport⟩ := parseAuthority_inv h
  have hpart : IsAuthority .special (hostPart s) := fun c hc => hs c (hostPart_subset hc)
  rw [splitUserinfo_append hs hrest, splitHost_append hpart hrest] at hparse hport
  obtain ⟨after, hport⟩ := hport
  rw [splitPort_append hrest] at hport
  refine ⟨hscheme, ⟨host, (hparse nofun).2, hhost⟩, ?_⟩
  cases hown : splitPort scheme (splitHost .special false (hostPart s)).2 with
  | error e =>
    rw [hown] at hport
    cases hport
  | ok p =>
    rw [hown] at hport
    obtain hp : p.1 = u.port := congrArg Prod.fst (Except.ok.inj hport)
    exact ⟨p.2, by rw [← hp]⟩

/-- An authority does not end in blanks. -/
theorem not_reads_append_blanks (hs : IsAuthority .special s) (ht : ∀ c ∈ t, c.toNat ≤ 0x20)
    (hne : t ≠ []) : ¬ Reads scheme (s ++ t) u := by
  intro h
  have hat : '@' ∉ t := fun hmem => ne_of_blank (ht _ hmem) (by decide) rfl
  have hpart : IsAuthority .special (hostPart s) := fun c hc => hs c (hostPart_subset hc)
  obtain ⟨-, ⟨host, hhost, -⟩, ⟨rest, hport⟩⟩ := h
  rw [hostPart_append hat] at hhost hport
  rcases splitHost_append_blanks hpart ht false with heq | ⟨port, hsub, heq⟩
  · rw [heq] at hhost
    exact Host.parseSpecial_append_blanks ht hne host hhost
  · rw [heq] at hport
    exact splitPort_append_blanks (fun c hc => hpart c (hsub hc)) ht hne _ hport

/-- A path behind the authority, and blanks in front of the path, change nothing about where the
URL goes, if it can be read at all. -/
theorem sameOrigin_of_parseAuthority {path : List Char} (ht : ∀ c ∈ t, c.toNat ≤ 0x20)
    (hu : parseAuthority scheme .special s = .ok u)
    (hv : parseAuthority scheme .special (s ++ t ++ '/' :: path) = .ok v) : v.SameOrigin u := by
  obtain ⟨authority, rest, rfl, hauthority, hrest⟩ := exists_authority .special s
  have hslash : IsPastAuthority .special ('/' :: path) := by
    rintro c ⟨⟩
    rfl
  have hureads : Reads scheme authority u := reads_of_parseAuthority hauthority hrest hu
  cases rest with
  | cons c rest =>
    -- the authority ends within the endpoint
    have hpast : IsPastAuthority .special (c :: rest ++ t ++ '/' :: path) := by
      rintro d ⟨⟩
      exact hrest c rfl
    rw [List.append_assoc, List.append_assoc, ← List.append_assoc (c :: rest)] at hv
    exact (reads_of_parseAuthority hauthority hpast hv).sameOrigin hureads
  | nil =>
    rw [List.append_nil] at hv
    have hvreads : Reads scheme (authority ++ t) v :=
      reads_of_parseAuthority (hauthority.append_blanks ht) hslash hv
    by_cases hnil : t = []
    · rw [hnil, List.append_nil] at hvreads
      exact hvreads.sameOrigin hureads
    · exact absurd hvreads (not_reads_append_blanks hauthority ht hnil)

end Authority

/-! ## The whole -/

section Whole

variable {s t rest : List Char} {scheme endpoint path : String} {u v : Url}

theorem splitScheme?_append (h : splitScheme? s = some (scheme, rest)) :
    splitScheme? (s ++ t) = some (scheme, rest ++ t) := by
  rw [splitScheme?] at h
  split at h
  · rename_i c name after hname hafter
    have hs : s = (c :: name) ++ ':' :: after := by
      rw [← hname, ← hafter, List.prefix_iff_eq_append.1 (List.takeWhile_prefix _)]
    have hall : ∀ d ∈ c :: name, isSchemeChar d = true := fun d hd =>
      List.all_eq_true.1 List.all_takeWhile d (hname ▸ hd)
    have hcolon : isSchemeChar ':' = false := by decide
    have htake : (s ++ t).takeWhile isSchemeChar = c :: name := by
      rw [hs, List.append_assoc, List.takeWhile_append_of_pos hall]
      simp [hcolon]
    have hdrop : (s ++ t).drop (c :: name).length = ':' :: (after ++ t) := by
      rw [hs, List.append_assoc, List.drop_left]
      rfl
    rw [splitScheme?, htake]
    simp only [hdrop]
    split at h
    · rename_i halpha
      obtain ⟨rfl, rfl⟩ : _ = scheme ∧ after = rest := by simpa using h
      rw [if_pos halpha, hname]
    · cases h
  · cases h

/-- The blanks at the end of a text that count if something follows: all but tabs and line ends. -/
def blanksAtEnd (s : List Char) : List Char :=
  ((s.dropWhile isControlOrBlank).reverse.takeWhile isControlOrBlank).reverse.filter (!isDropped ·)

/-- The text without the characters that do not count behind something else. -/
def cleanedEnd (s : List Char) : List Char :=
  (s.reverse.dropWhile isControlOrBlank).reverse.filter (!isDropped ·)

theorem blank_of_mem_blanksAtEnd {c : Char} (h : c ∈ blanksAtEnd s) : c.toNat ≤ 0x20 := by
  have hmem := List.mem_reverse.1 (List.mem_filter.1 h).1
  simpa [isControlOrBlank] using List.all_eq_true.1 List.all_takeWhile c hmem

/-- What counts of a text if something follows. -/
theorem cleaned_append_blanksAtEnd (s : List Char) :
    cleaned s ++ blanksAtEnd s = (s.dropWhile isControlOrBlank).filter (!isDropped ·) := by
  rw [cleaned, blanksAtEnd, ← List.filter_append, ← List.reverse_append,
    List.takeWhile_append_dropWhile, List.reverse_reverse]

/-- An endpoint that has a path behind it has its blanks back, but for tabs and line ends. -/
theorem cleaned_append (s path : List Char) :
    cleaned (s ++ '/' :: path) = cleaned s ++ blanksAtEnd s ++ '/' :: cleanedEnd path := by
  have hslash : isControlOrBlank '/' = false := by decide
  have hfront : (s ++ '/' :: path).dropWhile isControlOrBlank =
      s.dropWhile isControlOrBlank ++ '/' :: path := by
    rw [List.dropWhile_append]
    split
    · rename_i hempty
      rw [List.isEmpty_iff.1 hempty]
      simp [hslash]
    · rfl
  rw [cleaned_append_blanksAtEnd, cleaned, hfront]
  generalize s.dropWhile isControlOrBlank = m
  have hback : (m ++ '/' :: path).reverse.dropWhile isControlOrBlank =
      path.reverse.dropWhile isControlOrBlank ++ '/' :: m.reverse := by
    rw [List.reverse_append, List.reverse_cons, List.append_assoc, List.dropWhile_append]
    split
    · rename_i hempty
      rw [List.isEmpty_iff.1 hempty]
      simp [hslash]
    · rfl
  have hkept : (!isDropped '/') = true := by decide
  rw [hback, cleanedEnd]
  simp [hkept]

theorem scheme_of_parseFile (h : parseFile scheme s = .ok u) : u.scheme = scheme := by
  simp -zeta -zetaHave only [parseFile.eq_def] at h
  extract_lets isSlash finish at h
  have hfinish : ∀ x, finish x = .ok u → u.scheme = scheme := by
    intro x h
    obtain rfl := Except.ok.inj h
    rfl
  split at h
  · split at h
    · obtain ⟨x, -, h⟩ := exists_of_bind_eq_ok h
      exact hfinish x h
    · exact hfinish _ h
  · exact hfinish _ h

/-- The scheme of a URL is what its text starts with. -/
theorem splitScheme?_of_parse (h : parse endpoint = .ok u) :
    ∃ rest, splitScheme? (cleaned endpoint.toList) = some (u.scheme, rest) := by
  rw [parse] at h
  split at h
  · cases h
  rename_i name rest hsplit
  refine ⟨rest, ?_⟩
  rw [hsplit]
  split at h
  · rw [scheme_of_parseFile h]
  · rw [(parseAuthority_inv h).1]
  · split at h
    · rw [(parseAuthority_inv h).1]
    · obtain rfl := Except.ok.inj h
      rfl

/-- A path leaves the scheme as it is, and only adds to what follows it. -/
theorem splitScheme?_append_path (hpath : path.toList.head? = some '/')
    (hu : parse endpoint = .ok u) :
    ∃ rest t path', (∀ c ∈ t, c.toNat ≤ 0x20) ∧
      splitScheme? (cleaned endpoint.toList) = some (u.scheme, rest) ∧
      splitScheme? (cleaned (endpoint ++ path).toList) =
        some (u.scheme, rest ++ (t ++ '/' :: path')) := by
  obtain ⟨rest, hsplit⟩ := splitScheme?_of_parse hu
  obtain ⟨tail, htail⟩ := List.head?_eq_some_iff.1 hpath
  refine ⟨rest, blanksAtEnd endpoint.toList, cleanedEnd tail,
    fun c hc => blank_of_mem_blanksAtEnd hc, hsplit, ?_⟩
  rw [String.toList_append, htail, cleaned_append, List.append_assoc]
  exact splitScheme?_append hsplit

theorem scheme_eq_of_parse (hpath : path.toList.head? = some '/') (hu : parse endpoint = .ok u)
    (hv : parse (endpoint ++ path) = .ok v) : v.scheme = u.scheme := by
  obtain ⟨rest, t, path', -, -, hsplit⟩ := splitScheme?_append_path hpath hu
  obtain ⟨rest', hsplit'⟩ := splitScheme?_of_parse hv
  exact congrArg Prod.fst (Option.some.inj (hsplit'.symm.trans hsplit))

/-- **What is read of an endpoint and a path has the origin of the endpoint.** -/
theorem sameOrigin_of_parse (hkind : SchemeKind.ofScheme u.scheme = .special)
    (hpath : path.toList.head? = some '/') (hu : parse endpoint = .ok u)
    (hv : parse (endpoint ++ path) = .ok v) : v.SameOrigin u := by
  obtain ⟨rest, t, path', ht, hsplit, hsplit'⟩ := splitScheme?_append_path hpath hu
  simp only [parse, hsplit, hsplit', hkind] at hu hv
  have hsome : (rest.dropWhile fun c => c == '/' || c == '\\') ≠ [] := by
    intro hnil
    rw [hnil] at hu
    obtain ⟨-, ⟨host, -, hparse⟩, -⟩ := parseAuthority_inv hu
    exact (hparse nofun).1 rfl
  rw [List.dropWhile_append, if_neg (by simpa using hsome), ← List.append_assoc] at hv
  exact sameOrigin_of_parseAuthority ht hu hv

end Whole

/-- Is the URL one of the web? -/
def IsWeb (u : Url) : Prop := u.scheme = "http" ∨ u.scheme = "https"

theorem IsWeb.ofScheme {u : Url} (h : u.IsWeb) : SchemeKind.ofScheme u.scheme = .special := by
  rcases h with h | h <;> rw [h] <;> decide

end Url

/-! ## Requests -/

namespace ClientOptions

variable {o : ClientOptions}

/-- The endpoint of options that are accepted. -/
theorem endpoint_of_checked {c : Client} (h : o.checked = .ok c) :
    c.endpoint = o.endpoint ∧ ∃ u, Url.parse o.endpoint = .ok u := by
  obtain ⟨endpoint, authorization, userAgent, timeout, hendpoint, -, -, -, rfl⟩ :=
    Client.checked_inv h
  rw [checkedEndpoint] at hendpoint
  split at hendpoint
  · rename_i u hu
    exact ⟨(Except.ok.inj hendpoint).symm, u, hu⟩
  · cases hendpoint

/-- Slashes are taken off an endpoint, and nothing else is. -/
theorem eq_trimEndpoint_append (endpoint : String) :
    ∃ slashes : List Char, (∀ c ∈ slashes, c = '/') ∧
      endpoint = trimEndpoint endpoint ++ String.ofList slashes := by
  refine ⟨(endpoint.toList.reverse.takeWhile (· == '/')).reverse, fun c hc => ?_, ?_⟩
  · simpa using List.all_eq_true.1 List.all_takeWhile c (List.mem_reverse.1 hc)
  · rw [trimEndpoint, ← String.ofList_append, ← List.reverse_append,
      List.takeWhile_append_dropWhile, List.reverse_reverse, String.ofList_toList]

end ClientOptions

/-- **All requests of a client go where its endpoint is.** Of a client with an endpoint of the web,
a request that can be made has the scheme, the host and the port of the endpoint, whatever the path
is, as long as it starts with a slash. The same is true of the endpoint as it was given, with
slashes at its end. -/
theorem Client.request_sameOrigin {o : ClientOptions} {registry r₁ : Registry} {c : Client}
    (hbuild : build o registry = (.done c, r₁)) :
    ∃ u, Url.parse o.endpoint = .ok u ∧
      (u.IsWeb → ∀ l method path body r, path.toList.head? = some '/' →
        c.request l method path body = .ok r → r.url.SameOrigin u) ∧
      ∀ endpoint v, ClientOptions.trimEndpoint endpoint = o.endpoint →
        Url.parse endpoint = .ok v → v.IsWeb → v.SameOrigin u := by
  obtain ⟨hendpoint, u, hu⟩ := ClientOptions.endpoint_of_checked (checked_of_build hbuild)
  refine ⟨u, hu, fun hweb l method path body r hpath hr => ?_, fun endpoint v htrim hv hweb => ?_⟩
  · rw [request, hendpoint] at hr
    split at hr
    · cases hr
    · rename_i url hurl
      obtain rfl := Except.ok.inj hr
      exact Url.sameOrigin_of_parse hweb.ofScheme hpath hu hurl
  · obtain ⟨slashes, hslashes, heq⟩ := ClientOptions.eq_trimEndpoint_append endpoint
    rw [htrim] at heq
    cases slashes with
    | nil =>
      obtain rfl : endpoint = o.endpoint := by simpa using heq
      obtain rfl := Except.ok.inj (hu.symm.trans hv)
      exact ⟨rfl, rfl, rfl⟩
    | cons c slashes =>
      obtain rfl := hslashes c List.mem_cons_self
      subst heq
      have hpath : (String.ofList ('/' :: slashes)).toList.head? = some '/' := by simp
      have hscheme : u.IsWeb := by
        rwa [Url.IsWeb, ← Url.scheme_eq_of_parse hpath hu hv]
      exact Url.sameOrigin_of_parse hscheme.ofScheme hpath hu hv

namespace Loopback

/-- What a client is told whose endpoint was given with a user, a port and slashes at its end. -/
def visiting : ClientOptions := ClientOptions.default.withEndpoint "http://u@[::1]:8080//"

/-- The client that is told so. -/
def visitor : Client := { client with endpoint := "http://u@[::1]:8080", retry := .default }

/-- A path that looks like another user, host and port is a path. -/
theorem request_sameOrigin_visitor :
    ∃ u v r, Url.parse "http://u@[::1]:8080" = .ok u ∧
      Url.parse "http://u@[::1]:8080//" = .ok v ∧ v.SameOrigin u ∧
      visitor.request .unbounded "GET" "/\\@[::2]:81/..//x#" none = .ok r ∧ r.url.SameOrigin u := by
  have hbuild : Client.build visiting .empty = (.done visitor, .empty) := rfl
  obtain ⟨v, hv, hweb⟩ : ∃ v, Url.parse "http://u@[::1]:8080//" = .ok v ∧ v.IsWeb :=
    ⟨_, rfl, .inl rfl⟩
  obtain ⟨r, hr⟩ : ∃ r,
      visitor.request .unbounded "GET" "/\\@[::2]:81/..//x#" none = .ok r := ⟨_, rfl⟩
  obtain ⟨u, hu, hrequest, hgiven⟩ := Client.request_sameOrigin hbuild
  have hsame : v.SameOrigin u := hgiven "http://u@[::1]:8080//" v rfl hv hweb
  have huweb : u.IsWeb := by rwa [Url.IsWeb, ← hsame.scheme]
  exact ⟨u, v, r, hu, hv, hsame, hr, hrequest huweb _ _ _ _ r (by decide) hr⟩

end Loopback

end CloudClient
