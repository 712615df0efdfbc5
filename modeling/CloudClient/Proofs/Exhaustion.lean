import CloudClient.RateLimit

/-!
# When a window counts as used up

The header fields of an answer may say that nothing is left of the request window: the server asks
to wait, or it reports a window in which no request is left. This file compares that with what is
made of the fields. A field that is missing or malformed is read as a zero, and of the number of
requests that are left a zero says the most; so a window of which this is not known counts as used
up as well.

* `Decimal.Denotes`, `Blank.Pads` — which texts are numbers, and what may stand around them.
* `RateLimit.Reports`, `RateLimit.AsksToWait` — what single fields say, with an iff for the reader
  of each.
* `RateLimit.HasEvidence` — what the fields have to say of a window that is used up.
* `RateLimit.isExhausted_iff_hasEvidence_iff` — when a window counts as used up, and for which
  fields that is right.
-/

namespace CloudClient

/-! ## Numbers in fields -/

/-- The text is a number below 2⁶⁴ in decimal digits, with a plus sign in front or none. -/
inductive Decimal.Denotes : List Char → Nat → Prop
  | bare {digits : List Char} (hne : digits ≠ []) (hdigits : ∀ c ∈ digits, c.isDigit = true)
      (hlt : value digits < wordSize) : Denotes digits (value digits)
  | plus {digits : List Char} (hne : digits ≠ []) (hdigits : ∀ c ∈ digits, c.isDigit = true)
      (hlt : value digits < wordSize) : Denotes ('+' :: digits) (value digits)

namespace Decimal

variable {s : List Char} {n : Nat}

theorem filter_nat?_eq_some_iff :
    (nat? s).filter (· < wordSize) = some n ↔
      s ≠ [] ∧ (∀ c ∈ s, c.isDigit = true) ∧ value s < wordSize ∧ value s = n := by
  rw [nat?]
  split
  · rename_i h
    obtain ⟨hne, hdigits⟩ := h
    rw [List.all_eq_true] at hdigits
    simp only [Option.filter_eq_some_iff, Option.some.injEq, decide_eq_true_eq]
    constructor
    · rintro ⟨rfl, hlt⟩
      exact ⟨hne, hdigits, hlt, rfl⟩
    · rintro ⟨-, -, hlt, rfl⟩
      exact ⟨rfl, hlt⟩
  · rename_i h
    simp only [Option.filter_none, reduceCtorEq, false_iff]
    rintro ⟨hne, hdigits, -⟩
    exact h ⟨hne, List.all_eq_true.2 hdigits⟩

/-- **Words are the numbers that texts denote.** -/
theorem word?_eq_some_iff : word? s = some n ↔ Denotes s n := by
  constructor
  · intro h
    rw [word?.eq_def] at h
    split at h
    · obtain ⟨hne, hdigits, hlt, rfl⟩ := filter_nat?_eq_some_iff.1 h
      exact .plus hne hdigits hlt
    · obtain ⟨hne, hdigits, hlt, rfl⟩ := filter_nat?_eq_some_iff.1 h
      exact .bare hne hdigits hlt
  · rintro (⟨hne, hdigits, hlt⟩ | ⟨hne, hdigits, hlt⟩)
    · rw [word?.eq_def]
      split
      · -- a plus sign is no digit
        exact absurd (hdigits '+' List.mem_cons_self) (by decide)
      · exact filter_nat?_eq_some_iff.2 ⟨hne, hdigits, hlt, rfl⟩
    · exact filter_nat?_eq_some_iff.2 ⟨hne, hdigits, hlt, rfl⟩

/-- Nothing in a number is blank. -/
theorem Denotes.not_isBlank (h : Denotes s n) : ∀ c ∈ s, Blank.isBlank c = false := by
  have hdigit : ∀ c : Char, c.isDigit = true → Blank.isBlank c = false := by
    intro c hc
    have hbounds : 48 ≤ c.toNat ∧ c.toNat ≤ 57 := by
      simpa [Char.isDigit, UInt32.le_iff_toNat_le] using hc
    simp [Blank.isBlank, Blank.ranges]
    omega
  rcases h with ⟨-, hdigits, -⟩ | ⟨-, hdigits, -⟩
  · exact fun c hc => hdigit c (hdigits c hc)
  · refine List.forall_mem_cons.2 ⟨by decide, fun c hc => hdigit c (hdigits c hc)⟩

theorem Denotes.ne_nil (h : Denotes s n) : s ≠ [] := by
  rcases h with ⟨hne, -⟩ | -
  · exact hne
  · exact List.cons_ne_nil _ _

end Decimal

namespace Blank

variable {s inner : List Char}

/-- The text is the other one with blanks around it or none. -/
def Pads (s inner : List Char) : Prop :=
  ∃ before after, s = before ++ inner ++ after ∧ (∀ c ∈ before, isBlank c = true) ∧
    ∀ c ∈ after, isBlank c = true

theorem pads_trim (s : List Char) : Pads s (trim s) := by
  refine ⟨s.takeWhile isBlank, ((trimStart s).reverse.takeWhile isBlank).reverse, ?_,
    List.all_eq_true.1 List.all_takeWhile, fun c hc => ?_⟩
  · rw [trim, List.append_assoc, ← List.reverse_append, List.takeWhile_append_dropWhile,
      List.reverse_reverse, trimStart, List.takeWhile_append_dropWhile]
  · exact List.all_eq_true.1 List.all_takeWhile c (List.mem_reverse.1 hc)

theorem dropWhile_pads {before rest : List Char} (hbefore : ∀ c ∈ before, isBlank c = true)
    (hhead : ∀ c ∈ rest.head?, isBlank c = false) :
    (before ++ rest).dropWhile isBlank = rest := by
  rw [List.dropWhile_append_of_pos hbefore]
  cases rest with
  | nil => rfl
  | cons c rest => simp [hhead c rfl]

/-- A text without blanks is found again. -/
theorem Pads.trim_eq (h : Pads s inner) (hne : inner ≠ [])
    (hinner : ∀ c ∈ inner, isBlank c = false) :
    trim s = inner := by
  obtain ⟨before, after, rfl, hbefore, hafter⟩ := h
  have hfront : trimStart (before ++ inner ++ after) = inner ++ after := by
    rw [trimStart, List.append_assoc]
    refine dropWhile_pads hbefore fun c hc => ?_
    cases inner with
    | nil => exact absurd rfl hne
    | cons d inner =>
      obtain rfl := Option.some.inj hc
      exact hinner d List.mem_cons_self
  have hback : (inner ++ after).reverse.dropWhile isBlank = inner.reverse := by
    rw [List.reverse_append]
    refine dropWhile_pads (fun c hc => hafter c (List.mem_reverse.1 hc)) fun c hc => hinner c ?_
    exact List.mem_reverse.1 (List.mem_of_mem_head? hc)
  rw [trim, hfront, hback, List.reverse_reverse]

end Blank

/-! ## What fields say -/

namespace RateLimit

open Http

variable {now n : Nat} {h : Headers} {name : HeaderName}

/-- The first value of the field is this number, with blanks around it or none. -/
def Reports (h : Headers) (name : HeaderName) (n : Nat) : Prop :=
  ∃ field word, h.text? name = some field ∧ Blank.Pads field.toList word ∧ Decimal.Denotes word n

theorem number?_eq_some_iff : number? h name = some n ↔ Reports h name n := by
  rw [number?, Reports]
  constructor
  · intro hnumber
    obtain ⟨field, hfield, hword⟩ := Option.bind_eq_some_iff.1 hnumber
    exact ⟨field, _, hfield, Blank.pads_trim _, Decimal.word?_eq_some_iff.1 hword⟩
  · rintro ⟨field, word, hfield, hpads, hdenotes⟩
    refine Option.bind_eq_some_iff.2 ⟨field, hfield, ?_⟩
    rw [hpads.trim_eq hdenotes.ne_nil hdenotes.not_isBlank]
    exact Decimal.word?_eq_some_iff.2 hdenotes

theorem Reports.unique {m : Nat} (hm : Reports h name m) (hn : Reports h name n) : m = n :=
  Option.some.inj ((number?_eq_some_iff.2 hm).symm.trans (number?_eq_some_iff.2 hn))

theorem number?_eq_none_iff : number? h name = none ↔ ∀ n, ¬ Reports h name n := by
  simp only [Option.eq_none_iff_forall_ne_some, ne_eq, number?_eq_some_iff]

/-- The server asks to wait: for so many seconds, or until a date that has not passed. -/
inductive AsksToWait (now : Nat) (h : Headers) : Prop
  | delay {field : String} {seconds : Nat} (hfield : h.text? "retry-after" = some field)
      (hseconds : Decimal.Denotes field.toList seconds)
  | date {field : String} {moment : Nat} (hfield : h.text? "retry-after" = some field)
      (hdate : Time.HttpDate.parse? field = some moment) (hle : now ≤ moment)

theorem retryAfter?_isSome_iff : (retryAfter? now h).isSome = true ↔ AsksToWait now h := by
  rw [retryAfter?]
  cases hfield : h.text? "retry-after" with
  | none =>
    simp only [Option.bind_eq_bind, Option.bind_none, Option.isSome_none, Bool.false_eq_true,
      false_iff]
    rintro (⟨hsome, -⟩ | ⟨hsome, -⟩) <;> simp [hfield] at hsome
  | some field =>
    simp only [Option.bind_eq_bind, Option.bind_some]
    cases hword : Decimal.word? field.toList with
    | some seconds =>
      simp only [Option.pure_def, Option.isSome_some, true_iff]
      exact .delay hfield (Decimal.word?_eq_some_iff.1 hword)
    | none =>
      have hnumber : ∀ seconds, ¬ Decimal.Denotes field.toList seconds := by
        intro seconds hseconds
        rw [Decimal.word?_eq_some_iff.2 hseconds] at hword
        cases hword
      constructor
      · intro hsome
        obtain ⟨retryAfter, hsome⟩ := Option.isSome_iff_exists.1 hsome
        obtain ⟨moment, hmoment, -⟩ := Option.bind_eq_some_iff.1 hsome
        obtain ⟨hdate, hle⟩ := Option.filter_eq_some_iff.1 hmoment
        exact .date hfield hdate (of_decide_eq_true hle)
      · rintro (⟨hsome, hseconds⟩ | ⟨hsome, hdate, hle⟩)
        · obtain rfl := Option.some.inj (hfield.symm.trans hsome)
          exact absurd hseconds (hnumber _)
        · obtain rfl := Option.some.inj (hfield.symm.trans hsome)
          simp [hdate, Option.filter, hle]

/-! ## Exhaustion -/

/-- The fields say that the window is used up: the server asks to wait, or it reports a window and
that no request is left of it. -/
inductive HasEvidence (now : Nat) (h : Headers) : Prop
  | asked (hwait : AsksToWait now h)
  | usedUp {limit : Nat} (hlimit : Reports h "ratelimit-limit" limit) (hpos : 0 < limit)
      (hremaining : Reports h "ratelimit-remaining" 0)

theorem getD_number?_pos_iff :
    0 < (number? h name).getD 0 ↔ ∃ n, 0 < n ∧ Reports h name n := by
  simp only [← number?_eq_some_iff]
  cases number? h name with
  | none => simp
  | some n => simp

theorem getD_number?_eq_zero_iff :
    (number? h name).getD 0 = 0 ↔ ∀ n, Reports h name n → n = 0 := by
  simp only [← number?_eq_some_iff]
  cases number? h name with
  | none => simp
  | some n => simp

/-- A window counts as used up if the server asks to wait, or if it reports a window and does not
report that requests are left. -/
theorem isExhausted_iff :
    (ofHeaders now h).isExhausted = true ↔ AsksToWait now h ∨
      (∃ limit, 0 < limit ∧ Reports h "ratelimit-limit" limit) ∧
        ∀ n, Reports h "ratelimit-remaining" n → n = 0 := by
  rw [isExhausted, Bool.or_eq_true, Bool.and_eq_true, decide_eq_true_eq, beq_iff_eq]
  exact or_congr retryAfter?_isSome_iff (and_congr getD_number?_pos_iff getD_number?_eq_zero_iff)

/-- A window that is used up counts as that. -/
theorem HasEvidence.isExhausted (hevidence : HasEvidence now h) :
    (ofHeaders now h).isExhausted = true := by
  rw [isExhausted_iff]
  rcases hevidence with hwait | ⟨hlimit, hpos, hremaining⟩
  · exact .inl hwait
  · exact .inr ⟨⟨_, hpos, hlimit⟩, fun n hn => hn.unique hremaining⟩

/-- A window of which it is not known how much is left counts as used up. -/
theorem isExhausted_of_not_reports {limit : Nat} (hlimit : Reports h "ratelimit-limit" limit)
    (hpos : 0 < limit) (hnone : ∀ n, ¬ Reports h "ratelimit-remaining" n) :
    (ofHeaders now h).isExhausted = true :=
  isExhausted_iff.2 (.inr ⟨⟨limit, hpos, hlimit⟩, fun n hn => absurd hn (hnone n)⟩)

/-- **When a window counts as used up.** It does if the server asks to wait, or if it reports a
window and does not report that requests are left. So it always does if it is used up; and it does
only then, just if the server asks to wait, or reports no window, or reports how many requests are
left. -/
theorem isExhausted_iff_hasEvidence_iff (now : Nat) (h : Headers) :
    ((ofHeaders now h).isExhausted = true ↔ AsksToWait now h ∨
      (∃ limit, 0 < limit ∧ Reports h "ratelimit-limit" limit) ∧
        ∀ n, Reports h "ratelimit-remaining" n → n = 0) ∧
    (((ofHeaders now h).isExhausted = true ↔ HasEvidence now h) ↔
      AsksToWait now h ∨ (∀ limit, Reports h "ratelimit-limit" limit → limit = 0) ∨
        ∃ n, Reports h "ratelimit-remaining" n) := by
  refine ⟨isExhausted_iff, ⟨fun hright => ?_, fun hknown => ⟨fun hcounts => ?_, ?_⟩⟩⟩
  · by_cases hwait : AsksToWait now h
    · exact .inl hwait
    by_cases hnone : ∃ n, Reports h "ratelimit-remaining" n
    · exact .inr (.inr hnone)
    refine .inr (.inl fun limit hlimit => Nat.eq_zero_of_not_pos fun hpos => ?_)
    rcases hright.1 (isExhausted_of_not_reports hlimit hpos (not_exists.1 hnone)) with
      hasked | ⟨-, -, hremaining⟩
    · exact hwait hasked
    · exact hnone ⟨0, hremaining⟩
  · rcases isExhausted_iff.1 hcounts with hwait | ⟨⟨limit, hpos, hlimit⟩, hzero⟩
    · exact .asked hwait
    rcases hknown with hwait | hnone | ⟨n, hn⟩
    · exact .asked hwait
    · exact absurd (hnone limit hlimit) (Nat.ne_of_gt hpos)
    · obtain rfl := hzero n hn
      exact .usedUp hlimit hpos hn
  · exact HasEvidence.isExhausted

/-- The fields of an answer that reports a window, and nothing else. -/
def limitOnly : Headers := .ofList [("ratelimit-limit", textBytes "1000")]

/-- The fields of an answer that does not report properly how many requests are left. -/
def remainingMalformed : Headers :=
  .ofList [("ratelimit-limit", textBytes "1000"), ("ratelimit-remaining", textBytes "999 left")]

/-- Both windows count as used up, although nothing says so. -/
theorem not_hasEvidence_limitOnly :
    ((ofHeaders 0 limitOnly).isExhausted = true ∧ ¬ HasEvidence 0 limitOnly) ∧
      (ofHeaders 0 remainingMalformed).isExhausted = true ∧ ¬ HasEvidence 0 remainingMalformed := by
  have hsilent : ∀ {h : Headers}, retryAfter? 0 h = none → number? h "ratelimit-remaining" = none →
      ¬ HasEvidence 0 h := by
    rintro h hwait hnone (hasked | ⟨-, -, hremaining⟩)
    · rw [← retryAfter?_isSome_iff, hwait] at hasked
      cases hasked
    · exact number?_eq_none_iff.1 hnone 0 hremaining
  exact ⟨⟨by decide, hsilent (by decide) (by decide)⟩, by decide, hsilent (by decide) (by decide)⟩

end RateLimit

end CloudClient
