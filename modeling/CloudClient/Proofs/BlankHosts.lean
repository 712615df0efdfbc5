import CloudClient.Proofs.Utf8
import CloudClient.Url.Host
import Mathlib.Data.Option.Basic

/-!
# Hosts with a blank in them

A host may hold almost anything, since each character is replaced by what it stands for. Blanks and
control characters stand for themselves, and so none of them can disappear from a host: the bytes,
the characters, the composed form and the labels all hold it still, and no label may.

* `Unicode.mapping?_blank`, `Unicode.mem_composedForm` — a blank stands for itself, and it stays in
  the composed form of a text.
* `Punycode.mem_of_decode?` — what is no digit of Punycode is written as itself.
* `Domain.ofBytes?_blank` — no domain name has a blank in it.
* `Host.parseSpecial_append_blanks` — no host ends in blanks.
-/

namespace CloudClient

/-- What holds of all blanks and control characters, value by value. -/
theorem forall_blank {P : Char → Prop} (h : ∀ n ≤ 0x20, P (Char.ofNat n)) {c : Char}
    (hc : c.toNat ≤ 0x20) : P c := by
  have hP : P (Char.ofNat c.toNat) := h c.toNat hc
  rwa [Char.ofNat_toNat] at hP

/-- Blanks and control characters come before all others. -/
theorem ne_of_blank {c d : Char} (hc : c.toNat ≤ 0x20) (hd : 0x20 < d.toNat) : c ≠ d := by
  rintro rfl
  omega

namespace Unicode

/-! ## Tables -/

/-- The runs that a line of words describes. -/
def Run.ofLine (line : List Char) : List Run := (partsAt ' ' line).map ofWord

theorem Run.forall_read_nil (P : Run → Prop) : ∀ r ∈ read [], P r := by simp [read]

/-- What holds of the runs of the first line and of those of the other lines. -/
theorem Run.forall_read_cons {P : Run → Prop} {line : List Char} {lines : List String}
    (hline : ∀ r ∈ ofLine line, P r) (hlines : ∀ r ∈ read lines, P r) :
    ∀ r ∈ read (String.ofList line :: lines), P r := by
  intro r hr
  simp only [read, List.flatMap_cons, List.mem_append, String.toList_ofList] at hr
  rcases hr with hr | hr
  · exact hline r hr
  · exact hlines r hr

/-- No blank is among the characters that stand for others. -/
theorem mapped_above : ∀ r ∈ mapped, 0x20 < r.first := by
  unfold mapped
  -- line by line, so that no step evaluates more than one
  repeat (apply Run.forall_read_cons; decide +kernel)
  exact Run.forall_read_nil _

/-- No blank is among the characters that are composed, or among their parts. -/
theorem composed_above : ∀ r ∈ composed, 0x20 < (Char.ofNat r.first).toNat ∧
    ∀ n ∈ Run.numbers r.value, 0x20 < (Char.ofNat n).toNat := by
  unfold composed
  repeat (apply Run.forall_read_cons; decide +kernel)
  exact Run.forall_read_nil _

theorem compositions_above {p : Char × Char × Char} (hp : p ∈ compositions) :
    0x20 < p.1.toNat ∧ 0x20 < p.2.1.toNat ∧ 0x20 < p.2.2.toNat := by
  obtain ⟨r, hr, hrp⟩ := List.mem_filterMap.1 hp
  obtain ⟨hfirst, hvalue⟩ := composed_above r hr
  split at hrp
  · rename_i a b hab
    obtain rfl := Option.some.inj hrp
    simp only [hab, List.mem_cons, List.not_mem_nil, or_false, forall_eq_or_imp,
      forall_eq] at hvalue
    exact ⟨hfirst, hvalue.1, hvalue.2⟩
  · cases hrp

/-! ## Blanks in texts -/

section Blanks

variable {c d : Char} {s : List Char}

/-- A blank stands for itself, if it is allowed at all. -/
theorem mapping?_blank (hc : c.toNat ≤ 0x20) : mapping? c = none ∨ mapping? c = some [c] := by
  have hfind : Run.find? mapped c = none := by
    refine List.find?_eq_none.2 fun r hr hcontains => ?_
    have hfirst := mapped_above r hr
    simp only [Run.contains, Bool.and_eq_true, decide_eq_true_eq] at hcontains
    omega
  rw [mapping?, hfind]
  split
  · exact .inl rfl
  · exact .inr rfl

theorem decomposed_blank (hc : c.toNat ≤ 0x20) (depth : Nat) : decomposed depth c = [c] := by
  have hletters : Syllable.letters? c = none := by
    rw [Syllable.letters?, if_neg]
    simp only [Syllable.base]
    omega
  have hparts : parts? c = none := by
    rw [parts?, Option.map_eq_none_iff, List.find?_eq_none]
    intro p hp heq
    exact ne_of_blank hc (compositions_above hp).1 (beq_iff_eq.1 heq).symm
  cases depth with
  | zero => rfl
  | succ depth => rw [decomposed, hletters, hparts]

/-- No character is composed with a blank. -/
theorem composePair?_blank (h : c.toNat ≤ 0x20 ∨ d.toNat ≤ 0x20) : composePair? c d = none := by
  have hsyllable : Syllable.compose? c d = none := by
    rw [Syllable.compose?]
    split
    · rename_i hlead
      simp only [Syllable.leadBase, Syllable.vowelBase] at hlead
      omega
    · split
      · rename_i htrail
        simp only [Syllable.base, Syllable.trailBase] at htrail
        omega
      · rfl
  have hcomposition : composition? c d = none := by
    rw [composition?, Option.map_eq_none_iff, List.find?_eq_none]
    intro p hp heq
    obtain ⟨-, hfirst, hsecond⟩ := compositions_above hp
    rw [beq_iff_eq.1 heq] at hfirst hsecond
    rcases h with h | h <;> dsimp only at hfirst hsecond <;> omega
  rw [composePair?, hsyllable, hcomposition]
  rfl

theorem insertMark_perm (c : Char) (k : Nat) (s : List Char) :
    (insertMark c k s).Perm (c :: s) := by
  induction s with
  | nil => exact .refl _
  | cons d s ih =>
    rw [insertMark]
    split
    · exact (ih.cons d).trans (.swap c d s)
    · exact .refl _

/-- Putting marks in order moves characters alone. -/
theorem mem_ordered : c ∈ ordered s ↔ c ∈ s := by
  have hstep : ∀ done : List Char, c ∈ s.foldl (fun done c =>
      if markClass c = 0 then c :: done else insertMark c (markClass c) done) done ↔
      c ∈ s ∨ c ∈ done := by
    induction s with
    | nil => simp
    | cons d s ih =>
      intro done
      have hd : c ∈ (if markClass d = 0 then d :: done else insertMark d (markClass d) done) ↔
          c = d ∨ c ∈ done := by
        split
        · exact List.mem_cons
        · exact (insertMark_perm d _ done).mem_iff.trans List.mem_cons
      rw [List.foldl_cons, ih, hd, List.mem_cons, ← or_assoc, or_comm (a := c ∈ s)]
  rw [ordered, List.mem_reverse, hstep, or_iff_left List.not_mem_nil]

/-- A blank stays, be it the starter, one of the marks or one of the characters that follow. -/
theorem mem_compose (hc : c.toNat ≤ 0x20) {starter : Char} {marks : List Char}
    (h : c = starter ∨ c ∈ marks ∨ c ∈ s) : c ∈ compose starter marks s := by
  induction s generalizing starter marks with
  | nil => simpa [compose] using h
  | cons d s ih =>
    rw [compose.eq_def]
    dsimp only
    split
    · -- the starter and the next character are composed, so neither of them is the blank
      rename_i e hpair
      obtain ⟨-, hpair⟩ := Option.ite_none_right_eq_some.1 hpair
      have hne : c ≠ starter ∧ c ≠ d := by
        constructor <;> rintro rfl
        · rw [composePair?_blank (.inl hc)] at hpair
          cases hpair
        · rw [composePair?_blank (.inr hc)] at hpair
          cases hpair
      refine ih (.inr ?_)
      simpa [hne.1, hne.2] using h
    · split
      · have hnext : c ∈ compose d [] s ∨ c = starter ∨ c ∈ marks := by
          rcases h with h | h | h
          · exact .inr (.inl h)
          · exact .inr (.inr h)
          · exact .inl (ih (by simpa using List.mem_cons.1 h))
        simpa [or_assoc, or_comm] using hnext
      · refine ih ?_
        rcases h with h | h | h
        · exact .inl h
        · exact .inr (.inl (List.mem_cons_of_mem d h))
        · rcases List.mem_cons.1 h with rfl | h
          · exact .inr (.inl List.mem_cons_self)
          · exact .inr (.inr h)

/-- A blank stays in the composed form. -/
theorem mem_composedForm (hc : c.toNat ≤ 0x20) (h : c ∈ s) : c ∈ composedForm s := by
  have hordered : c ∈ ordered (s.flatMap (decomposed partDepth)) :=
    mem_ordered.2 (List.mem_flatMap.2 ⟨c, h, by simp [decomposed_blank hc]⟩)
  rw [composedForm]
  generalize ordered (s.flatMap (decomposed partDepth)) = text at hordered
  induction text with
  | nil => cases hordered
  | cons d text ih =>
    rw [composeFrom]
    split
    · exact mem_compose hc (by simpa using List.mem_cons.1 hordered)
    · rcases List.mem_cons.1 hordered with rfl | hmem
      · exact List.mem_cons_self
      · exact List.mem_cons_of_mem d (ih hmem)

end Blanks

end Unicode

/-! ## Punycode -/

namespace Punycode

variable {bias k w i j n fuel : Nat} {s rest text result : List Char} {c : Char}

/-- A distance is read from digits alone. -/
theorem isSome_digitValue?_of_readDistance? (h : readDistance? bias s k w i = some (j, rest))
    (hc : c ∈ s) : (digitValue? c).isSome ∨ c ∈ rest := by
  induction s generalizing k w i with
  | nil => cases hc
  | cons d s ih =>
    rw [readDistance?] at h
    obtain ⟨v, hv, h⟩ := Option.bind_eq_some_iff.1 h
    obtain ⟨-, -, h⟩ := Option.bind_eq_some_iff.1 h
    rcases List.mem_cons.1 hc with rfl | hc
    · exact .inl (by rw [hv]; rfl)
    · dsimp only at h
      split at h
      · obtain ⟨rfl, rfl⟩ : _ = j ∧ s = rest := by simpa using h
        exact .inr hc
      · exact ih h hc

/-- Characters are read from digits alone, and what there is of the text stays. -/
theorem of_readPoints? (h : readPoints? fuel s n i bias text = some result) :
    (∀ c ∈ s, (digitValue? c).isSome) ∧ text ⊆ result := by
  induction fuel generalizing s n i bias text with
  | zero =>
    cases s with
    | nil =>
      obtain rfl := Option.some.inj h
      exact ⟨by simp, List.Subset.refl _⟩
    | cons => cases h
  | succ fuel ih =>
    cases s with
    | nil =>
      obtain rfl := Option.some.inj h
      exact ⟨by simp, List.Subset.refl _⟩
    | cons d s =>
      rw [readPoints?.eq_def] at h
      obtain ⟨⟨j, rest⟩, hread, h⟩ := Option.bind_eq_some_iff.1 h
      obtain ⟨-, -, h⟩ := Option.bind_eq_some_iff.1 h
      obtain ⟨hrest, htext⟩ := ih h
      refine ⟨fun c hc => ?_, fun c hc => htext ?_⟩
      · exact (isSome_digitValue?_of_readDistance? hread hc).elim id (hrest c)
      · rw [← List.take_append_drop (j % (text.length + 1)) text] at hc
        simp only [List.mem_append, List.mem_cons] at hc ⊢
        exact hc.imp_right .inr

/-- What is no digit of Punycode, and not the hyphen, is written as itself. -/
theorem mem_of_decode? (h : decode? s = some text) (hc : c ∈ s) (hhyphen : c ≠ '-')
    (hdigit : digitValue? c = none) : c ∈ text := by
  rw [decode?] at h
  split at h
  · obtain ⟨htail, hbasic⟩ := of_readPoints? h
    rw [← List.mem_reverse, ← List.takeWhile_append_dropWhile (p := (· ≠ '-')) (l := s.reverse),
      List.mem_append] at hc
    rcases hc with hc | hc
    · have := htail c (List.mem_reverse.2 hc)
      rw [hdigit] at this
      cases this
    · apply hbasic
      rw [List.mem_reverse]
      cases hback : s.reverse.dropWhile (· ≠ '-') with
      | nil =>
        rw [hback] at hc
        cases hc
      | cons d back =>
        -- what is dropped is the hyphen itself
        have hd : d = '-' := by
          have hhead := List.head?_dropWhile_not (· ≠ '-') s.reverse
          rw [hback] at hhead
          simpa using hhead
        rw [hback] at hc
        exact (List.mem_cons.1 hc).resolve_left (hd ▸ hhyphen)
  · cases h

end Punycode

/-! ## Names -/

section Names

variable {c : Char} {s : List Char}

/-- Where a list is read, each item is read. -/
theorem exists_of_mapM {α β : Type} {f : α → Option β} {items : List α} {results : List β} {a : α}
    (h : items.mapM f = some results) (ha : a ∈ items) : ∃ b ∈ results, f a = some b := by
  induction items generalizing results with
  | nil => cases ha
  | cons first items ih =>
    rw [List.mapM_cons] at h
    obtain ⟨b, hb, h⟩ := Option.bind_eq_some_iff.1 h
    obtain ⟨others, hothers, h⟩ := Option.bind_eq_some_iff.1 h
    obtain rfl : b :: others = results := Option.some.inj h
    rcases List.mem_cons.1 ha with rfl | ha
    · exact ⟨b, List.mem_cons_self, hb⟩
    · obtain ⟨b', hmem, hb'⟩ := ih hothers ha
      exact ⟨b', List.mem_cons_of_mem b hmem, hb'⟩

theorem mem_partsAt {separator : Char} (hc : c ≠ separator) (h : c ∈ s) :
    ∃ part ∈ partsAt separator s, c ∈ part := by
  induction s with
  | nil => cases h
  | cons d s ih =>
    rw [partsAt]
    split
    · rename_i hd
      obtain ⟨part, hpart, hmem⟩ := ih ((List.mem_cons.1 h).resolve_left (hd ▸ hc))
      exact ⟨part, List.mem_cons_of_mem _ hpart, hmem⟩
    · split
      · rename_i hnil
        exact absurd hnil (partsAt_ne_nil separator s)
      · rename_i first others hparts
        rcases List.mem_cons.1 h with rfl | h
        · exact ⟨_, List.mem_cons_self, List.mem_cons_self⟩
        · obtain ⟨part, hpart, hmem⟩ := ih h
          rw [hparts] at hpart
          rcases List.mem_cons.1 hpart with rfl | hpart
          · exact ⟨_, List.mem_cons_self, List.mem_cons_of_mem d hmem⟩
          · exact ⟨part, List.mem_cons_of_mem _ hpart, hmem⟩

/-- No label has a blank in it, be it written in Punycode or not. -/
theorem Label.ofText?_blank (hc : c.toNat ≤ 0x20) (h : c ∈ s) : ofText? s = none := by
  have hforbidden : ∀ text, c ∈ text → isText text = false := by
    intro text hmem
    have hany : text.any isForbidden = true :=
      List.any_eq_true.2 ⟨c, hmem, by simp [isForbidden, hc]⟩
    simp [isText, hany]
  have hdecode : ∀ text, mark.isPrefixOf s = true → decode? (s.drop mark.length) = some text →
      c ∈ text := by
    intro text hprefix hdecode
    rw [decode?] at hdecode
    obtain ⟨-, -, hdecode⟩ := Option.bind_eq_some_iff.1 hdecode
    obtain ⟨text', hread, hdecode⟩ := Option.bind_eq_some_iff.1 hdecode
    split at hdecode
    · cases hdecode
    obtain rfl := Option.some.inj hdecode
    obtain ⟨rest, rfl⟩ := List.isPrefixOf_iff_prefix.1 hprefix
    have hmark : c ∉ mark := by
      intro hmem
      have habove : ∀ d ∈ mark, 0x20 < d.toNat := by simp [mark]
      exact ne_of_blank hc (habove c hmem) rfl
    rw [List.drop_left] at hread
    refine Punycode.mem_of_decode? hread ((List.mem_append.1 h).resolve_left hmark)
      (ne_of_blank hc (by decide)) ?_
    exact forall_blank (P := fun c => Punycode.digitValue? c = none) (by decide) hc
  have hrefused : ∀ label : Label, c ∈ label.text →
      (if isText label.text then some label else none) = none := by
    intro label hmem
    rw [hforbidden _ hmem]
    rfl
  rw [ofText?]
  split
  · rename_i hprefix
    refine Option.bind_eq_none_iff.2 fun label hlabel => ?_
    obtain ⟨text, htext, rfl⟩ := Option.map_eq_some_iff.1 hlabel
    exact hrefused _ (hdecode text hprefix htext)
  · split
    · exact hrefused ⟨s, s⟩ h
    · exact hrefused ⟨_, s⟩ h

/-- A blank stays in a name when its characters are replaced by what they stand for. -/
theorem Domain.mem_of_mapped? {text : List Char} (hc : c.toNat ≤ 0x20) (h : c ∈ s)
    (hmapped : mapped? s = some text) : c ∈ text := by
  rw [mapped?] at hmapped
  obtain ⟨targets, htargets, htext⟩ := Option.bind_eq_some_iff.1 hmapped
  obtain ⟨target, htarget, hmapping⟩ := exists_of_mapM htargets h
  have hmem : c ∈ targets.flatten := by
    rcases Unicode.mapping?_blank hc with hnone | hself
    · rw [hnone] at hmapping
      cases hmapping
    · rw [hself] at hmapping
      obtain rfl := Option.some.inj hmapping
      exact List.mem_flatten.2 ⟨[c], htarget, List.mem_singleton_self c⟩
  obtain rfl := Option.some.inj htext
  split
  · exact hmem
  · exact Unicode.mem_composedForm hc hmem

/-- No domain name has a blank in it. -/
theorem Domain.ofBytes?_blank {bytes : Bytes} (hc : c.toNat ≤ 0x20)
    (h : c ∈ Utf8.decodeLossy bytes) : ofBytes? bytes = none := by
  rw [ofBytes?, Option.map_eq_none_iff, Option.eq_none_iff_forall_ne_some]
  intro labels hlabels
  rw [labels?] at hlabels
  obtain ⟨text, htext, hlabels⟩ := Option.bind_eq_some_iff.1 hlabels
  obtain ⟨made, hmade, -⟩ := Option.bind_eq_some_iff.1 hlabels
  have hdot : c ≠ '.' := ne_of_blank hc (by decide)
  obtain ⟨part, hpart, hmem⟩ := mem_partsAt hdot (mem_of_mapped? hc h htext)
  obtain ⟨label, -, hlabel⟩ := exists_of_mapM hmade hpart
  rw [Label.ofText?_blank hc hmem] at hlabel
  cases hlabel

end Names

/-! ## Bytes -/

namespace Utf8

variable {b first : UInt8} {bytes : Bytes}

theorem lead?_low {v more : Nat} {low high : UInt8} (h : lead? b = some (v, low, high, more)) :
    0x80 ≤ low := by
  rw [lead?] at h
  repeat' split at h
  all_goals cases h
  all_goals decide

/-- Only continuation bytes belong to a character that has begun. -/
theorem mem_rest_tails (hb : b < 0x80) (h : b ∈ bytes) (n v : Nat) :
    b ∈ (tails n v bytes).rest := by
  induction bytes generalizing n v with
  | nil => cases h
  | cons first bytes ih =>
    cases n with
    | zero => exact h
    | succ n =>
      rw [tails]
      split
      · rename_i htail
        rcases List.mem_cons.1 h with rfl | h
        · simp only [isTail, Bool.and_eq_true, decide_eq_true_eq] at htail
          exact absurd hb (UInt8.not_lt.2 htail.1)
        · exact ih h n _
      · exact h

/-- A byte in ASCII is a character of its own, even after the beginning of another one. -/
theorem mem_rest_step (hb : b < 0x80) (h : b ∈ bytes) : b ∈ (step (first :: bytes)).rest := by
  rw [step.eq_def]
  dsimp only
  split
  · exact h
  · split
    · rename_i v low high more second bytes hlead
      split
      · rename_i hbounds
        simp only [Bool.and_eq_true, decide_eq_true_eq] at hbounds
        rcases List.mem_cons.1 h with rfl | h
        · have hlow := UInt8.le_trans (lead?_low hlead) hbounds.1
          exact absurd hb (UInt8.not_lt.2 hlow)
        · exact mem_rest_tails hb h _ _
      · exact h
    · exact h

/-- A byte in ASCII is read, whatever stands in front of it. -/
theorem mem_decodeLossy (hb : b < 0x80) (h : b ∈ bytes) :
    Char.ofNat b.toNat ∈ decodeLossy bytes := by
  have hpieces : ∀ fuel, bytes.length ≤ fuel → some (Char.ofNat b.toNat) ∈ pieces fuel bytes := by
    intro fuel hfuel
    induction fuel generalizing bytes with
    | zero =>
      obtain rfl := List.length_eq_zero_iff.1 (Nat.le_zero.1 hfuel)
      cases h
    | succ fuel ih =>
      cases bytes with
      | nil => cases h
      | cons first bytes =>
        have hlength : bytes.length ≤ fuel := Nat.le_of_succ_le_succ hfuel
        have hshorter := step_rest_length first bytes
        rw [pieces]
        rcases List.mem_cons.1 h with rfl | h
        · rw [step.eq_def]
          dsimp only
          rw [if_pos hb]
          exact List.mem_cons_self
        · have hrest : b ∈ (step (first :: bytes)).rest := mem_rest_step hb h
          cases hstep : step (first :: bytes) with
          | character c rest =>
            rw [hstep] at hrest hshorter
            exact List.mem_cons_of_mem _ (ih hrest (Nat.le_trans hshorter hlength))
          | illFormed rest =>
            rw [hstep] at hrest hshorter
            exact List.mem_cons_of_mem _ (ih hrest (Nat.le_trans hshorter hlength))
          | empty =>
            rw [hstep] at hrest
            cases hrest
  exact List.mem_map.2 ⟨_, hpieces _ (Nat.le_refl _), rfl⟩

end Utf8

section Encoded

variable {c : Char} {s : List Char}

theorem utf8EncodeChar_blank (hc : c.toNat ≤ 0x20) :
    String.utf8EncodeChar c = [UInt8.ofNat c.toNat] := by
  rw [Utf8.utf8EncodeChar_eq, if_pos (by omega)]

/-- A blank stays when percent signs are read. -/
theorem Percent.mem_decode (hc : c.toNat ≤ 0x20) (h : c ∈ s) : UInt8.ofNat c.toNat ∈ decode s := by
  have hhex : hexValue? c = none := forall_blank (P := fun c => hexValue? c = none) (by decide) hc
  have hpercent : c ≠ '%' := ne_of_blank hc (by decide)
  have hown : UInt8.ofNat c.toNat ∈ String.utf8EncodeChar c := by
    rw [utf8EncodeChar_blank hc]
    exact List.mem_singleton_self _
  induction s using decode.induct with
  | case1 => cases h
  | case2 high low s b hbyte ih =>
    -- neither of the digits is the blank
    have hdigits : c ≠ high ∧ c ≠ low := by
      constructor <;> rintro rfl
      · simp [byte?, hhex] at hbyte
      · simp [byte?, hhex] at hbyte
    rw [decode, hbyte]
    refine List.mem_cons_of_mem _ (ih ?_)
    simpa [hpercent, hdigits] using h
  | case3 high low s hbyte ih =>
    rw [decode, hbyte]
    exact List.mem_append_right _ (ih ((List.mem_cons.1 h).resolve_left hpercent))
  | case4 d s hd ih =>
    rw [decode]
    · rcases List.mem_cons.1 h with rfl | h
      · exact List.mem_append_left _ hown
      · exact List.mem_append_right _ (ih h)
    · exact hd

/-- No host in brackets ends in blanks. -/
theorem Host.bracketed?_append_blanks {t : List Char} (ht : ∀ c ∈ t, c.toNat ≤ 0x20) (hne : t ≠ [])
    (host : Host) : bracketed? (s ++ t) ≠ some (.ok host) := by
  intro hok
  rw [bracketed?.eq_def] at hok
  split at hok
  · rename_i rest hrest
    split at hok
    · rename_i hlast
      have hmem : ']' ∈ t := by
        have hends : (s ++ t).getLast? = some ']' := by
          rw [hrest, List.getLast?_cons, hlast]
          rfl
        rw [List.getLast?_append, List.getLast?_eq_some_getLast hne] at hends
        obtain heq : t.getLast hne = ']' := Option.some.inj hends
        exact heq ▸ List.getLast_mem hne
      exact ne_of_blank (ht _ hmem) (by decide) rfl
    · cases hok
  · cases hok

/-- No host ends in blanks. -/
theorem Host.parseSpecial_append_blanks {t : List Char} (ht : ∀ c ∈ t, c.toNat ≤ 0x20)
    (hne : t ≠ []) (host : Host) : parseSpecial (s ++ t) ≠ .ok host := by
  intro hok
  rw [parseSpecial] at hok
  split at hok
  · rename_i result hresult
    exact bracketed?_append_blanks ht hne host (hok ▸ hresult)
  · obtain ⟨c, hmem⟩ := List.exists_mem_of_ne_nil t hne
    have hc : c.toNat ≤ 0x20 := ht c hmem
    have hbyte : UInt8.ofNat c.toNat ∈ Percent.decode (s ++ t) :=
      Percent.mem_decode hc (List.mem_append_right s hmem)
    obtain ⟨hlow, hself⟩ : UInt8.ofNat c.toNat < 0x80 ∧
        Char.ofNat (UInt8.ofNat c.toNat).toNat = c :=
      forall_blank (P := fun c => UInt8.ofNat c.toNat < 0x80 ∧
        Char.ofNat (UInt8.ofNat c.toNat).toNat = c) (by decide) hc
    have hread : c ∈ Utf8.decodeLossy (Percent.decode (s ++ t)) :=
      hself ▸ Utf8.mem_decodeLossy hlow hbyte
    rw [Domain.ofBytes?_blank hc hread] at hok
    cases hok

end Encoded

end CloudClient
