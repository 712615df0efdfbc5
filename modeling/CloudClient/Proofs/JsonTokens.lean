import Mathlib.Data.List.Chain
import CloudClient.Json.Token
import CloudClient.Proofs.Utf8

/-!
# How tokens are spelled

A JSON text is tokens with blanks around them. This file says which bytes spell which tokens,
without a word on how they are read, and shows that the reader finds these tokens and no others.

* `IsNumeral` and `IsQuoted` — what numerals and the insides of strings look like.
* `Token.Spells` — the bytes spell these tokens, with any blanks around each.
* `Numeral.parse?_isSome_iff` — numerals are taken apart, and nothing else is.
* `Token.lex_sound` — a text spells the tokens that are read from it.
* `Token.lex_complete` — the tokens that a text spells are read from it, if no word runs into the
  next token.
-/

namespace CloudClient.Json

/-! ## Numerals -/

/-- Digits, one at least. -/
def IsDigits (s : List Char) : Prop := s ≠ [] ∧ ∀ c ∈ s, c.isDigit = true

/-- The part before the point: a zero, or digits of which the first one is none. -/
def IsWhole (s : List Char) : Prop := IsDigits s ∧ (s.head? = some '0' → s = ['0'])

/-- The part from the point on, which may be missing. -/
inductive IsFraction : List Char → Prop
  | missing : IsFraction []
  | digits {ds : List Char} (h : IsDigits ds) : IsFraction ('.' :: ds)

/-- The power of ten, which may be missing, and its sign, which may be missing, too. -/
inductive IsPower : List Char → Prop
  | missing : IsPower []
  | digits {e : Char} {sign ds : List Char} (he : e = 'e' ∨ e = 'E')
      (hsign : sign = [] ∨ sign = ['-'] ∨ sign = ['+']) (h : IsDigits ds) :
      IsPower (e :: (sign ++ ds))

/-- A numeral: perhaps a minus sign, and then the three parts. -/
inductive IsNumeral : List Char → Prop
  | parts {sign whole fraction power : List Char} (hsign : sign = [] ∨ sign = ['-'])
      (hwhole : IsWhole whole) (hfraction : IsFraction fraction) (hpower : IsPower power) :
      IsNumeral (sign ++ (whole ++ (fraction ++ power)))

namespace Numeral

variable {s ds rest : List Char}

/-- The text does not start with a digit. -/
def IsPastDigits (s : List Char) : Prop := ∀ c ∈ s.head?, c.isDigit = false

theorem digits_append (h : ∀ c ∈ ds, c.isDigit = true) (hrest : IsPastDigits rest) :
    digits (ds ++ rest) = (ds.map digit, rest) := by
  have hnone : rest.takeWhile Char.isDigit = [] ∧ rest.dropWhile Char.isDigit = rest := by
    cases rest with
    | nil => exact ⟨rfl, rfl⟩
    | cons c rest => simp [hrest c rfl]
  rw [digits, List.takeWhile_append_of_pos h, List.dropWhile_append_of_pos h, hnone.1, hnone.2,
    List.append_nil]

/-- Inversion for digits. -/
theorem digits_inv {vs : List Nat} (h : digits s = (vs, rest)) :
    ∃ ds, s = ds ++ rest ∧ vs = ds.map digit ∧ ∀ c ∈ ds, c.isDigit = true := by
  obtain ⟨rfl, rfl⟩ := Prod.mk.inj h
  exact ⟨s.takeWhile Char.isDigit, List.takeWhile_append_dropWhile.symm, rfl,
    List.all_eq_true.1 List.all_takeWhile⟩

theorem digit_eq_zero {c : Char} (h : c.isDigit = true) : digit c = 0 ↔ c = '0' := by
  rw [digit]
  constructor
  · intro hzero
    rw [Char.isDigit, Bool.and_eq_true, decide_eq_true_eq, decide_eq_true_eq] at h
    have hle : '0'.toNat ≤ c.toNat := h.1
    exact Char.toNat_inj.1 (by omega)
  · rintro rfl
    rfl

theorem isDigits_of_map_cons {v : Nat} {vs : List Nat} (hmap : v :: vs = ds.map digit)
    (h : ∀ c ∈ ds, c.isDigit = true) : IsDigits ds := by
  refine ⟨?_, h⟩
  rintro rfl
  cases hmap

/-! ### Parts that are read -/

theorem wholePart?_inv {vs : List Nat} (h : wholePart? s = some (vs, rest)) :
    ∃ whole, IsWhole whole ∧ s = whole ++ rest := by
  rw [wholePart?] at h
  split at h
  · cases h
  · cases h
  · rename_i vs' rest' hnil hzero hdigits
    obtain ⟨rfl, rfl⟩ := Prod.mk.inj (Option.some.inj h)
    obtain ⟨ds, rfl, rfl, hds⟩ := digits_inv hdigits
    refine ⟨ds, ⟨⟨?_, hds⟩, fun hhead => ?_⟩, rfl⟩
    · rintro rfl
      exact hnil rfl
    · -- a zero in front is the only digit
      match ds, hhead with
      | [_], rfl => rfl
      | _ :: d :: ds, rfl => exact (hzero _ _ rfl).elim

theorem fractionPart?_inv {vs : List Nat} (h : fractionPart? s = some (vs, rest)) :
    ∃ fraction, IsFraction fraction ∧ s = fraction ++ rest := by
  rw [fractionPart?.eq_def] at h
  split at h
  · split at h
    · cases h
    · rename_i hnil hdigits
      obtain ⟨rfl, rfl⟩ := Prod.mk.inj (Option.some.inj h)
      obtain ⟨ds, rfl, rfl, hds⟩ := digits_inv hdigits
      refine ⟨'.' :: ds, .digits ⟨?_, hds⟩, rfl⟩
      rintro rfl
      exact hnil rfl
  · obtain ⟨-, rfl⟩ := Prod.mk.inj (Option.some.inj h)
    exact ⟨[], .missing, rfl⟩

theorem powerDigits?_isSome_iff : (powerDigits? s).isSome = true ↔ IsDigits s := by
  rw [powerDigits?]
  constructor
  · intro h
    split at h
    · rename_i hdigits
      obtain ⟨ds, rfl, hmap, hds⟩ := digits_inv hdigits
      rw [List.append_nil]
      exact isDigits_of_map_cons hmap hds
    · cases h
  · rintro ⟨hne, hds⟩
    have hdigits : digits s = (s.map digit, []) := by
      have happend : digits (s ++ []) = (s.map digit, []) := digits_append hds nofun
      rwa [List.append_nil] at happend
    cases s with
    | nil => exact absurd rfl hne
    | cons c s =>
      rw [hdigits]
      rfl

theorem isSome_cast (n : Option Nat) :
    (do return ((← n : Nat) : Int) : Option Int).isSome = n.isSome := by
  cases n <;> rfl

theorem powerPart?_isSome_iff : (powerPart? s).isSome = true ↔ IsPower s := by
  constructor
  · intro h
    rw [powerPart?.eq_def] at h
    split at h
    · exact .missing
    · split at h
      · rename_i he
        split at h
        · rw [Option.isSome_map, isSome_cast, powerDigits?_isSome_iff] at h
          exact .digits he (.inr (.inl rfl)) h
        · rw [Option.isSome_map, isSome_cast, powerDigits?_isSome_iff] at h
          exact .digits he (.inr (.inr rfl)) h
        · rw [Option.isSome_map, isSome_cast, powerDigits?_isSome_iff] at h
          exact .digits he (.inl rfl) h
      · cases h
  · rintro (_ | ⟨he, hsign, h⟩)
    · rfl
    · have hsome := powerDigits?_isSome_iff.2 h
      rcases hsign with rfl | rfl | rfl
      · rw [List.nil_append, powerPart?.eq_def]
        simp only [if_pos he]
        -- digits do not start with a sign
        split
        · exact absurd (h.2 '-' List.mem_cons_self) (by decide)
        · exact absurd (h.2 '+' List.mem_cons_self) (by decide)
        · rwa [Option.isSome_map, isSome_cast]
      · rw [List.singleton_append, powerPart?, if_pos he]
        rwa [Option.isSome_map, isSome_cast]
      · rw [List.singleton_append, powerPart?, if_pos he]
        rwa [Option.isSome_map, isSome_cast]

/-! ### Parts that are there -/

theorem wholePart?_append (h : IsWhole s) (hrest : IsPastDigits rest) :
    ∃ vs, wholePart? (s ++ rest) = some (vs, rest) := by
  obtain ⟨⟨hne, hds⟩, hzero⟩ := h
  rw [wholePart?, digits_append hds hrest]
  split
  · rename_i heq
    exact absurd (List.map_eq_nil_iff.1 (Prod.mk.inj heq).1) hne
  · rename_i heq
    match s, (Prod.mk.inj heq).1 with
    | [_], hmap => cases (List.cons.inj hmap).2
    | c :: d :: s, hmap =>
      obtain rfl := (digit_eq_zero (hds c List.mem_cons_self)).1 (List.cons.inj hmap).1
      cases hzero rfl
  · rename_i heq
    obtain ⟨rfl, rfl⟩ := Prod.mk.inj heq
    exact ⟨_, rfl⟩

theorem fractionPart?_append (h : IsFraction s) (hrest : IsPastDigits rest)
    (hpoint : rest.head? ≠ some '.') : ∃ vs, fractionPart? (s ++ rest) = some (vs, rest) := by
  cases h with
  | missing =>
    rw [List.nil_append, fractionPart?.eq_def]
    split
    · exact absurd rfl hpoint
    · exact ⟨[], rfl⟩
  | digits h =>
    rename_i ds
    rw [List.cons_append, fractionPart?, digits_append h.2 hrest]
    split
    · rename_i heq
      exact absurd (List.map_eq_nil_iff.1 (Prod.mk.inj heq).1) h.1
    · rename_i heq
      obtain ⟨rfl, rfl⟩ := Prod.mk.inj heq
      exact ⟨_, rfl⟩

theorem isPast_of_isPower (h : IsPower s) : IsPastDigits s ∧ s.head? ≠ some '.' := by
  cases h with
  | missing => exact ⟨nofun, nofun⟩
  | digits he =>
    constructor
    · rintro c ⟨⟩
      rcases he with rfl | rfl <;> rfl
    · intro h
      obtain rfl := Option.some.inj h
      revert he
      decide

theorem isPast_append (h : IsFraction s) (hrest : IsPastDigits rest) :
    IsPastDigits (s ++ rest) := by
  cases h with
  | missing => exact hrest
  | digits =>
    rintro c ⟨⟩
    rfl

/-! ### The whole -/

/-- The parts behind the sign. -/
def parts? (negative : Bool) (s : List Char) : Option Numeral := do
  let (whole, s) ← wholePart? s
  let (fraction, s) ← fractionPart? s
  let power ← powerPart? s
  return { negative, whole, fraction, power }

theorem parts?_isSome_iff (negative : Bool) :
    (parts? negative s).isSome = true ↔
      ∃ whole fraction power, IsWhole whole ∧ IsFraction fraction ∧ IsPower power ∧
        s = whole ++ (fraction ++ power) := by
  rw [parts?]
  constructor
  · intro h
    obtain ⟨n, h⟩ := Option.isSome_iff_exists.1 h
    simp only [Option.bind_eq_bind, Option.bind_eq_some_iff, Prod.exists] at h
    obtain ⟨vs, rest, hreadWhole, vs', power, hreadFraction, n, hreadPower, -⟩ := h
    obtain ⟨whole, hwhole, rfl⟩ := wholePart?_inv hreadWhole
    obtain ⟨fraction, hfraction, rfl⟩ := fractionPart?_inv hreadFraction
    have hpower : IsPower power := powerPart?_isSome_iff.1 (Option.isSome_of_eq_some hreadPower)
    exact ⟨whole, fraction, power, hwhole, hfraction, hpower, rfl⟩
  · rintro ⟨whole, fraction, power, hwhole, hfraction, hpower, rfl⟩
    obtain ⟨hpast, hpoint⟩ := isPast_of_isPower hpower
    obtain ⟨vs, hwhole⟩ := wholePart?_append hwhole (isPast_append hfraction hpast)
    obtain ⟨vs', hfraction⟩ := fractionPart?_append hfraction hpast hpoint
    obtain ⟨p, hpower⟩ := Option.isSome_iff_exists.1 (powerPart?_isSome_iff.2 hpower)
    simp [hwhole, hfraction, hpower]

theorem parse?_minus : parse? ('-' :: s) = parts? true s := rfl

theorem parse?_of_ne (h : s.head? ≠ some '-') : parse? s = parts? false s := by
  unfold parse?
  split
  rename_i heq
  split at heq
  · exact absurd rfl h
  · obtain ⟨rfl, rfl⟩ := Prod.mk.inj heq
    rfl

/-- The part before the point starts with a digit. -/
theorem exists_of_isWhole (h : IsWhole s) : ∃ c rest, s = c :: rest ∧ c.isDigit = true := by
  obtain ⟨⟨hne, hds⟩, -⟩ := h
  obtain ⟨c, rest, rfl⟩ := List.exists_cons_of_ne_nil hne
  exact ⟨c, rest, rfl, hds c List.mem_cons_self⟩

/-- **Numerals are taken apart**, and nothing else is. -/
theorem parse?_isSome_iff : (parse? s).isSome = true ↔ IsNumeral s := by
  constructor
  · intro h
    by_cases hminus : s.head? = some '-'
    · obtain ⟨s, rfl⟩ := List.head?_eq_some_iff.1 hminus
      rw [parse?_minus, parts?_isSome_iff] at h
      obtain ⟨_, _, _, hwhole, hfraction, hpower, rfl⟩ := h
      exact .parts (.inr rfl) hwhole hfraction hpower
    · rw [parse?_of_ne hminus, parts?_isSome_iff] at h
      obtain ⟨_, _, _, hwhole, hfraction, hpower, rfl⟩ := h
      exact .parts (.inl rfl) hwhole hfraction hpower
  · rintro ⟨rfl | rfl, hwhole, hfraction, hpower⟩
    · rw [List.nil_append, parse?_of_ne, parts?_isSome_iff]
      · exact ⟨_, _, _, hwhole, hfraction, hpower, rfl⟩
      · obtain ⟨c, rest, rfl, hc⟩ := exists_of_isWhole hwhole
        rintro hminus
        obtain rfl := Option.some.inj hminus
        cases hc
    · rw [List.singleton_append, parse?_minus, parts?_isSome_iff]
      exact ⟨_, _, _, hwhole, hfraction, hpower, rfl⟩

/-- A numeral starts with a minus sign or with a digit. -/
theorem exists_of_isNumeral (h : IsNumeral s) :
    ∃ c rest, s = c :: rest ∧ (c = '-' ∨ c.isDigit = true) := by
  obtain ⟨rfl | rfl, hwhole, -, -⟩ := h
  · obtain ⟨c, rest, rfl, hc⟩ := exists_of_isWhole hwhole
    exact ⟨c, _, rfl, .inr hc⟩
  · exact ⟨'-', _, rfl, .inl rfl⟩

theorem isBare_of_isDigit {c : Char} (h : c.isDigit = true) : Token.isBare c = true := by
  simp [Token.isBare, Char.isAlphanum, h]

/-- Numerals are made of the characters that words are made of. -/
theorem isBare_of_isNumeral (h : IsNumeral s) : ∀ c ∈ s, Token.isBare c = true := by
  have hds : ∀ {ds : List Char}, IsDigits ds → ∀ c ∈ ds, Token.isBare c = true :=
    fun h c hc => isBare_of_isDigit (h.2 c hc)
  obtain ⟨hsign, hwhole, hfraction, hpower⟩ := h
  simp only [List.forall_mem_append]
  refine ⟨?_, hds hwhole.1, ?_, ?_⟩
  · rcases hsign with rfl | rfl <;> exact List.all_eq_true.1 rfl
  · cases hfraction with
    | missing => exact nofun
    | digits h => exact List.forall_mem_cons.2 ⟨rfl, hds h⟩
  · cases hpower with
    | missing => exact nofun
    | digits he hsign h =>
      refine List.forall_mem_cons.2 ⟨?_, List.forall_mem_append.2 ⟨?_, hds h⟩⟩
      · rcases he with rfl | rfl <;> rfl
      · rcases hsign with rfl | rfl | rfl <;> exact List.all_eq_true.1 rfl

end Numeral

/-! ## Strings -/

/-- The inside of a string: characters that stand for themselves, and escapes. -/
inductive IsQuoted : Bytes → Prop
  | nil : IsQuoted []
  | plain {b : UInt8} {q : Bytes} (hquote : Char.ofUInt8 b ≠ '"') (hescape : Char.ofUInt8 b ≠ '\\')
      (hcontrol : ¬ b < 0x20) (h : IsQuoted q) : IsQuoted (b :: q)
  | simple {b : UInt8} {q : Bytes} (hb : Token.isSimpleEscape (Char.ofUInt8 b) = true)
      (h : IsQuoted q) : IsQuoted (Token.byte '\\' :: b :: q)
  | unit {x y z w : UInt8} {q : Bytes}
      (hdigits : ∀ b ∈ [x, y, z, w], Token.isHexDigit (Char.ofUInt8 b) = true)
      (h : IsQuoted q) : IsQuoted (Token.byte '\\' :: Token.byte 'u' :: x :: y :: z :: w :: q)

namespace Token

variable {b : UInt8} {c : Char} {s rest content q : Bytes} {ts : List Token} {t : Token}

theorem toUInt8_ofUInt8 (b : UInt8) : (Char.ofUInt8 b).toUInt8 = b :=
  b.toUInt8_toUInt32

theorem eq_byte (h : Char.ofUInt8 b = c) : b = byte c := by
  rw [← h, byte, toUInt8_ofUInt8]

/-! ### One step in a string -/

theorem lexFrom_quoted_quote (content s : Bytes) :
    lexFrom (.quoted content) (byte '"' :: s) =
      (lexFrom .between s).map (string content.reverse :: ·) := rfl

theorem lexFrom_quoted_backslash (content s : Bytes) :
    lexFrom (.quoted content) (byte '\\' :: s) = lexFrom (.escape (byte '\\' :: content)) s := rfl

theorem lexFrom_quoted_plain (hquote : Char.ofUInt8 b ≠ '"') (hescape : Char.ofUInt8 b ≠ '\\')
    (hcontrol : ¬ b < 0x20) (content s : Bytes) :
    lexFrom (.quoted content) (b :: s) = lexFrom (.quoted (b :: content)) s := by
  rw [lexFrom, if_neg hquote, if_neg hescape, if_neg hcontrol]

theorem lexFrom_escape_simple (h : isSimpleEscape (Char.ofUInt8 b) = true) (content s : Bytes) :
    lexFrom (.escape content) (b :: s) = lexFrom (.quoted (b :: content)) s := if_pos h

theorem lexFrom_escape_unit (content s : Bytes) :
    lexFrom (.escape content) (byte 'u' :: s) =
      lexFrom (.hexadecimal 4 (byte 'u' :: content)) s := rfl

theorem lexFrom_hexadecimal_more (h : isHexDigit (Char.ofUInt8 b) = true) (n : Nat)
    (content s : Bytes) :
    lexFrom (.hexadecimal (n + 2) content) (b :: s) =
      lexFrom (.hexadecimal (n + 1) (b :: content)) s := if_pos h

theorem lexFrom_hexadecimal_last (h : isHexDigit (Char.ofUInt8 b) = true) (content s : Bytes) :
    lexFrom (.hexadecimal 1 content) (b :: s) = lexFrom (.quoted (b :: content)) s := if_pos h

/-- **The inside of a string is read to its end**, whatever follows the string. -/
theorem lexFrom_quoted (h : IsQuoted q) (content rest : Bytes) :
    lexFrom (.quoted content) (q ++ byte '"' :: rest) =
      (lexFrom .between rest).map (string (content.reverse ++ q) :: ·) := by
  induction h generalizing content with
  | nil => rw [List.nil_append, lexFrom_quoted_quote, List.append_nil]
  | plain hquote hescape hcontrol h ih =>
    rw [List.cons_append, lexFrom_quoted_plain hquote hescape hcontrol, ih]
    simp
  | simple hb h ih =>
    rw [List.cons_append, List.cons_append, lexFrom_quoted_backslash, lexFrom_escape_simple hb, ih]
    simp
  | unit hdigits h ih =>
    simp only [List.forall_mem_cons] at hdigits
    obtain ⟨hx, hy, hz, hw, -⟩ := hdigits
    simp only [List.cons_append]
    rw [lexFrom_quoted_backslash, lexFrom_escape_unit, lexFrom_hexadecimal_more hx,
      lexFrom_hexadecimal_more hy, lexFrom_hexadecimal_more hz, lexFrom_hexadecimal_last hw, ih]
    simp

theorem lexFrom_hexadecimal_inv {n : Nat} (h : lexFrom (.hexadecimal (n + 1) content) s = some ts) :
    ∃ ds rest, ds.length = n + 1 ∧ (∀ b ∈ ds, isHexDigit (Char.ofUInt8 b) = true) ∧
      s = ds ++ rest ∧ lexFrom (.quoted (ds.reverse ++ content)) rest = some ts := by
  induction n generalizing content s with
  | zero =>
    cases s with
    | nil => cases h
    | cons b s =>
      by_cases hb : isHexDigit (Char.ofUInt8 b) = true
      · rw [lexFrom_hexadecimal_last hb] at h
        exact ⟨[b], s, rfl, by simpa using hb, rfl, h⟩
      · rw [lexFrom, if_neg hb] at h
        cases h
  | succ n ih =>
    cases s with
    | nil => cases h
    | cons b s =>
      by_cases hb : isHexDigit (Char.ofUInt8 b) = true
      · rw [lexFrom_hexadecimal_more hb] at h
        obtain ⟨ds, rest, hlength, hds, rfl, h⟩ := ih h
        refine ⟨b :: ds, rest, congrArg (· + 1) hlength, List.forall_mem_cons.2 ⟨hb, hds⟩, rfl, ?_⟩
        rwa [List.reverse_cons, List.append_assoc]
      · rw [lexFrom, if_neg hb] at h
        cases h

/-- **Inversion for a string.** -/
theorem lexFrom_quoted_inv (h : lexFrom (.quoted content) s = some ts) :
    ∃ q rest ts', IsQuoted q ∧ s = q ++ byte '"' :: rest ∧ lexFrom .between rest = some ts' ∧
      ts = string (content.reverse ++ q) :: ts' := by
  -- by the length of the text, as an escape takes several bytes
  induction hn : s.length using Nat.strongRecOn generalizing content s with
  | _ n ih =>
  subst hn
  cases s with
  | nil => cases h
  | cons b s =>
    by_cases hquote : Char.ofUInt8 b = '"'
    · obtain rfl := eq_byte hquote
      rw [lexFrom_quoted_quote] at h
      obtain ⟨ts', hts, rfl⟩ := Option.map_eq_some_iff.1 h
      exact ⟨[], s, ts', .nil, rfl, hts, by rw [List.append_nil]⟩
    by_cases hescape : Char.ofUInt8 b = '\\'
    · obtain rfl := eq_byte hescape
      rw [lexFrom_quoted_backslash] at h
      cases s with
      | nil => cases h
      | cons e s =>
        by_cases hsimple : isSimpleEscape (Char.ofUInt8 e) = true
        · rw [lexFrom_escape_simple hsimple] at h
          obtain ⟨q, rest, ts', hq, rfl, hts, rfl⟩ :=
            ih _ (Nat.lt_succ_of_lt (Nat.lt_succ_self _)) h rfl
          exact ⟨_, rest, ts', .simple hsimple hq, rfl, hts, by simp⟩
        by_cases hunit : Char.ofUInt8 e = 'u'
        · obtain rfl := eq_byte hunit
          rw [lexFrom_escape_unit] at h
          obtain ⟨ds, rest', hlength, hds, rfl, hrest⟩ := lexFrom_hexadecimal_inv h
          obtain ⟨x, y, z, w, rfl⟩ : ∃ x y z w, ds = [x, y, z, w] := by
            match ds, hlength with
            | [x, y, z, w], _ => exact ⟨x, y, z, w, rfl⟩
          obtain ⟨q, rest, ts', hq, rfl, hts, rfl⟩ := ih _ (by simp; omega) hrest rfl
          exact ⟨_, rest, ts', .unit hds hq, rfl, hts, by simp⟩
        · rw [lexFrom, if_neg hsimple, if_neg hunit] at h
          cases h
    by_cases hcontrol : b < 0x20
    · rw [lexFrom, if_neg hquote, if_neg hescape, if_pos hcontrol] at h
      cases h
    · rw [lexFrom_quoted_plain hquote hescape hcontrol] at h
      obtain ⟨q, rest, ts', hq, rfl, hts, rfl⟩ := ih _ (by simp) h rfl
      exact ⟨_, rest, ts', .plain hquote hescape hcontrol hq, rfl, hts, by simp⟩

/-! ### Words -/

/-- Words and numerals, which have to end where the next token starts. -/
def isWord : Token → Bool
  | null | bool _ | number _ => true
  | _ => false

/-- The token can be spelled: it is a numeral or a string only if its text is one. -/
def IsSound : Token → Prop
  | number n => IsNumeral n
  | string q => IsQuoted q
  | _ => True

/-- Nothing that belongs to a word, or starts a string, comes next. -/
def IsPastWord (s : Bytes) : Prop :=
  ∀ b ∈ s.head?, isBare (Char.ofUInt8 b) = false ∧ Char.ofUInt8 b ≠ '"'

theorem toNat_le_of_isBare (h : isBare c = true) : c.toNat ≤ 0x7F := by
  simp only [isBare, Bool.or_eq_true, beq_iff_eq] at h
  rcases h with ((hword | rfl) | rfl) | rfl
  · exact Utf8.toNat_le_of_isAlphanum hword
  · decide
  · decide
  · decide

/-- An ASCII character is one byte. -/
theorem utf8EncodeChar_of_le (h : c.toNat ≤ 0x7F) : String.utf8EncodeChar c = [byte c] := by
  rw [Utf8.utf8EncodeChar_eq, if_pos h]
  rfl

/-- The characters of words are bytes. -/
theorem encode_of_isBare {run : List Char} (h : ∀ c ∈ run, isBare c = true) :
    Utf8.encode run = run.map byte := by
  induction run with
  | nil => rfl
  | cons c run ih =>
    obtain ⟨hc, hrun⟩ := List.forall_mem_cons.1 h
    rw [Utf8.encode, List.flatMap_cons, utf8EncodeChar_of_le (toNat_le_of_isBare hc),
      ← Utf8.encode, ih hrun]
    rfl

theorem ofUInt8_byte_of_le (h : c.toNat ≤ 0x7F) : Char.ofUInt8 (byte c) = c := by
  refine Char.ext (UInt32.toNat_inj.1 ?_)
  change c.val.toUInt8.toUInt32.toNat = c.toNat
  rw [UInt8.toNat_toUInt32, UInt32.toNat_toUInt8]
  exact Nat.mod_eq_of_lt (by change c.toNat < 2 ^ 8; omega)

theorem ofUInt8_byte (h : isBare c = true) : Char.ofUInt8 (byte c) = c :=
  ofUInt8_byte_of_le (toNat_le_of_isBare h)

/-- The token of a run is a word, and it is spelled like the run. -/
theorem ofBare?_inv {run : List Char} (h : ofBare? run = some t) :
    t.isWord = true ∧ t.IsSound ∧ t.render = Utf8.encode run := by
  rw [ofBare?] at h
  split at h
  · rename_i hrun
    obtain rfl := Option.some.inj h
    exact ⟨rfl, trivial, by rw [hrun]; rfl⟩
  split at h
  · rename_i hrun
    obtain rfl := Option.some.inj h
    exact ⟨rfl, trivial, by rw [hrun]; rfl⟩
  split at h
  · rename_i hrun
    obtain rfl := Option.some.inj h
    exact ⟨rfl, trivial, by rw [hrun]; rfl⟩
  split at h
  · rename_i hsome
    obtain rfl := Option.some.inj h
    exact ⟨rfl, Numeral.parse?_isSome_iff.1 hsome, rfl⟩
  · cases h

/-- A word is the token of the run that it is spelled with. -/
theorem exists_ofBare? (hword : t.isWord = true) (hsound : t.IsSound) :
    ∃ run, run ≠ [] ∧ (∀ c ∈ run, isBare c = true) ∧ ofBare? run = some t ∧
      t.render = run.map byte := by
  cases t with
  | null => exact ⟨"null".toList, by decide, List.all_eq_true.1 rfl, rfl, rfl⟩
  | bool b =>
    cases b with
    | true => exact ⟨"true".toList, by decide, List.all_eq_true.1 rfl, rfl, rfl⟩
    | false => exact ⟨"false".toList, by decide, List.all_eq_true.1 rfl, rfl, rfl⟩
  | number n =>
    have hbare := Numeral.isBare_of_isNumeral hsound
    refine ⟨n, ?_, hbare, ?_, encode_of_isBare hbare⟩
    · obtain ⟨c, rest, rfl, -⟩ := Numeral.exists_of_isNumeral hsound
      exact List.cons_ne_nil c rest
    · -- no word starts like a numeral
      have hne : ∀ word : List Char, word.head?.all (fun c => c ≠ '-' && !c.isDigit) = true →
          n ≠ word := by
        rintro word hhead rfl
        obtain ⟨d, rest, rfl, rfl | hd⟩ := Numeral.exists_of_isNumeral hsound
        · cases hhead
        · simp [hd] at hhead
      rw [ofBare?, if_neg (hne _ (by decide)), if_neg (hne _ (by decide)),
        if_neg (hne _ (by decide)), if_pos (Numeral.parse?_isSome_iff.2 hsound)]
  | _ => cases hword

/-! ### One step in a word -/

theorem lexFrom_bare_more (h : isBare (Char.ofUInt8 b) = true) (run : List Char) (s : Bytes) :
    lexFrom (.bare run) (b :: s) = lexFrom (.bare (Char.ofUInt8 b :: run)) s := if_pos h

/-- **A word ends where nothing follows that belongs to it**, unless a string follows. -/
theorem lexFrom_bare_past (h : IsPastWord s) (run : List Char) :
    lexFrom (.bare run) s =
      (ofBare? run.reverse).bind fun t => (lexFrom .between s).map (t :: ·) := by
  cases s with
  | nil =>
    have hown : lexFrom (.bare run) [] = (ofBare? run.reverse).map ([·]) := by rw [lexFrom]
    rw [hown]
    cases ofBare? run.reverse <;> rfl
  | cons b s =>
    obtain ⟨hbare, hquote⟩ := h b rfl
    rw [lexFrom, lexFrom]
    simp only [hbare, hquote, Bool.false_eq_true, if_false]
    cases ofBare? run.reverse with
    | none => rfl
    | some t =>
      dsimp only
      split
      · rfl
      · cases punctuation? (Char.ofUInt8 b) with
        | none => rfl
        | some p => simp [Function.comp_def]

/-- **A word is read to its end.** -/
theorem lexFrom_bare {word : List Char} (hword : ∀ c ∈ word, isBare c = true)
    (hrest : IsPastWord rest) (run : List Char) :
    lexFrom (.bare run) (word.map byte ++ rest) =
      (ofBare? (run.reverse ++ word)).bind fun t => (lexFrom .between rest).map (t :: ·) := by
  induction word generalizing run with
  | nil => rw [List.map_nil, List.nil_append, lexFrom_bare_past hrest, List.append_nil]
  | cons c word ih =>
    obtain ⟨hc, hword⟩ := List.forall_mem_cons.1 hword
    have hbyte := ofUInt8_byte hc
    rw [List.map_cons, List.cons_append, lexFrom_bare_more (by rwa [hbyte]), hbyte, ih hword]
    simp

/-- **Inversion for a word.** -/
theorem lexFrom_bare_inv {run : List Char} (h : lexFrom (.bare run) s = some ts) :
    ∃ word rest t ts', (∀ c ∈ word, isBare c = true) ∧ s = word.map byte ++ rest ∧
      ofBare? (run.reverse ++ word) = some t ∧ lexFrom .between rest = some ts' ∧
      ts = t :: ts' := by
  induction s generalizing run with
  | nil =>
    rw [lexFrom] at h
    obtain ⟨t, ht, rfl⟩ := Option.map_eq_some_iff.1 h
    exact ⟨[], [], t, [], nofun, rfl, by rwa [List.append_nil], rfl, rfl⟩
  | cons b s ih =>
    by_cases hbare : isBare (Char.ofUInt8 b) = true
    · rw [lexFrom_bare_more hbare] at h
      obtain ⟨word, rest, t, ts', hword, rfl, ht, hts, rfl⟩ := ih h
      refine ⟨Char.ofUInt8 b :: word, rest, t, ts', List.forall_mem_cons.2 ⟨hbare, hword⟩, ?_, ?_,
        hts, rfl⟩
      · rw [List.map_cons, List.cons_append, byte, toUInt8_ofUInt8]
      · rwa [List.reverse_cons, List.append_assoc] at ht
    · by_cases hquote : Char.ofUInt8 b = '"'
      · -- a string cannot follow
        obtain rfl := eq_byte hquote
        rw [lexFrom, if_neg hbare] at h
        split at h
        · cases h
        · cases h
      · have hpast : IsPastWord (b :: s) := by
          rintro _ ⟨⟩
          exact ⟨Bool.not_eq_true _ ▸ hbare, hquote⟩
        rw [lexFrom_bare_past hpast, Option.bind_eq_some_iff] at h
        obtain ⟨t, ht, hmap⟩ := h
        obtain ⟨ts', hts, rfl⟩ := Option.map_eq_some_iff.1 hmap
        exact ⟨[], _, t, ts', nofun, rfl, by rwa [List.append_nil], hts, rfl⟩

/-! ## Texts -/

/-- The bytes spell these tokens, with any blanks in front of each and at the end. -/
inductive Spells : List Token → Bytes → Prop
  | nil {s : Bytes} (h : ∀ b ∈ s, isBlank (Char.ofUInt8 b) = true) : Spells [] s
  | cons {blanks : Bytes} {t : Token} {ts : List Token} {s : Bytes}
      (hblanks : ∀ b ∈ blanks, isBlank (Char.ofUInt8 b) = true) (ht : t.IsSound)
      (h : Spells ts s) : Spells (t :: ts) (blanks ++ (t.render ++ s))

/-- The brackets, braces and separators. -/
def isPunctuation : Token → Bool
  | beginArray | endArray | beginObject | endObject | comma | colon => true
  | _ => false

/-- No word is followed by a word or a string. -/
def Separated (ts : List Token) : Prop :=
  ts.IsChain fun t u => t.isWord = true → u.isPunctuation = true

theorem punctuation?_inv (h : punctuation? c = some t) :
    t.isPunctuation = true ∧ t.IsSound ∧ t.render = [byte c] := by
  rw [punctuation?.eq_def] at h
  split at h <;> cases h <;> exact ⟨rfl, trivial, rfl⟩

theorem Spells.blank (h : Spells ts s) (hb : isBlank (Char.ofUInt8 b) = true) :
    Spells ts (b :: s) := by
  cases h with
  | nil h => exact .nil (List.forall_mem_cons.2 ⟨hb, h⟩)
  | cons hblanks ht h => exact .cons (List.forall_mem_cons.2 ⟨hb, hblanks⟩) ht h

/-- **One step between tokens**: a blank is dropped, or a token is read. -/
theorem lexFrom_between_inv (h : lexFrom .between (b :: s) = some ts) :
    (isBlank (Char.ofUInt8 b) = true ∧ lexFrom .between s = some ts) ∨
      ∃ t rest ts', t.IsSound ∧ b :: s = t.render ++ rest ∧ t.render ≠ [] ∧
        lexFrom .between rest = some ts' ∧ ts = t :: ts' := by
  by_cases hblank : isBlank (Char.ofUInt8 b) = true
  · rw [lexFrom, if_pos hblank] at h
    exact .inl ⟨hblank, h⟩
  right
  by_cases hquote : Char.ofUInt8 b = '"'
  · rw [lexFrom, if_neg hblank, if_pos hquote] at h
    obtain ⟨q, rest, ts', hq, rfl, hts, rfl⟩ := lexFrom_quoted_inv h
    obtain rfl := eq_byte hquote
    exact ⟨string q, rest, ts', hq, by simp [render], List.cons_ne_nil _ _, hts, rfl⟩
  by_cases hbare : isBare (Char.ofUInt8 b) = true
  · rw [lexFrom, if_neg hblank, if_neg hquote, if_pos hbare] at h
    obtain ⟨word, rest, t, ts', hword, rfl, ht, hts, rfl⟩ := lexFrom_bare_inv h
    obtain ⟨-, hsound, hrender⟩ := ofBare?_inv ht
    have hall : ∀ c ∈ Char.ofUInt8 b :: word, isBare c = true :=
      List.forall_mem_cons.2 ⟨hbare, hword⟩
    have hbytes : t.render = b :: word.map byte := by
      rw [hrender, List.reverse_singleton, List.singleton_append, encode_of_isBare hall,
        List.map_cons, byte, toUInt8_ofUInt8]
    exact ⟨t, rest, ts', hsound, by rw [hbytes]; rfl, hbytes ▸ List.cons_ne_nil _ _, hts, rfl⟩
  · rw [lexFrom, if_neg hblank, if_neg hquote, if_neg hbare] at h
    split at h
    · rename_i t ht
      obtain ⟨ts', hts, rfl⟩ := Option.map_eq_some_iff.1 h
      obtain ⟨-, hsound, hrender⟩ := punctuation?_inv ht
      have hbytes : t.render = [b] := by rw [hrender, byte, toUInt8_ofUInt8]
      exact ⟨t, s, ts', hsound, by rw [hbytes]; rfl, hbytes ▸ List.cons_ne_nil _ _, hts, rfl⟩
    · cases h

/-- **A text spells the tokens that are read from it.** -/
theorem lex_sound (h : lex s = some ts) : Spells ts s := by
  rw [lex] at h
  induction hn : s.length using Nat.strongRecOn generalizing s ts with
  | _ n ih =>
  subst hn
  cases s with
  | nil =>
    obtain rfl := Option.some.inj h
    exact .nil nofun
  | cons b s =>
    rcases lexFrom_between_inv h with ⟨hblank, h⟩ | ⟨t, rest, ts', ht, heq, hne, hrest, rfl⟩
    · exact (ih _ (Nat.lt_succ_self _) h rfl).blank hblank
    · have hlt : rest.length < (b :: s).length := by
        have hpos := List.length_pos_iff.2 hne
        rw [heq, List.length_append]
        omega
      have hcons : Spells (t :: ts') ([] ++ (t.render ++ rest)) :=
        .cons nofun ht (ih _ hlt hrest rfl)
      rw [heq]
      exact hcons

/-! ### Reading what is spelled -/

theorem lexFrom_blanks {blanks : Bytes} (h : ∀ b ∈ blanks, isBlank (Char.ofUInt8 b) = true)
    (s : Bytes) : lexFrom .between (blanks ++ s) = lexFrom .between s := by
  induction blanks with
  | nil => rfl
  | cons b blanks ih =>
    obtain ⟨hb, hblanks⟩ := List.forall_mem_cons.1 h
    rw [List.cons_append, lexFrom, if_pos hb, ih hblanks]

/-- Blanks and punctuation belong to no word. -/
theorem isPastWord_of_isBlank (h : isBlank (Char.ofUInt8 b) = true) (s : Bytes) :
    IsPastWord (b :: s) := by
  rintro _ ⟨⟩
  simp only [isBlank, Bool.or_eq_true, beq_iff_eq] at h
  obtain ((h | h) | h) | h := h <;> rw [h] <;> exact ⟨rfl, by decide⟩

theorem isPastWord_render (h : t.isPunctuation = true) (s : Bytes) :
    IsPastWord (t.render ++ s) := by
  cases t with
  | null | bool | number | string => cases h
  | _ =>
    rintro _ ⟨⟩
    exact ⟨rfl, by decide⟩

/-- A word ends where the next token does not belong to it. -/
theorem Spells.isPastWord (h : Spells ts s) (hts : ∀ t ∈ ts.head?, t.isPunctuation = true) :
    IsPastWord s := by
  cases h with
  | nil h =>
    cases s with
    | nil => exact nofun
    | cons b s => exact isPastWord_of_isBlank (h b List.mem_cons_self) s
  | @cons blanks t _ s hblanks _ _ =>
    cases blanks with
    | nil => exact isPastWord_render (hts t rfl) s
    | cons b blanks => exact isPastWord_of_isBlank (hblanks b List.mem_cons_self) _

/-- A token that is no word is read, whatever follows it. -/
theorem lexFrom_render (hword : t.isWord = false) (ht : t.IsSound) (s : Bytes) :
    lexFrom .between (t.render ++ s) = (lexFrom .between s).map (t :: ·) := by
  cases t with
  | null | bool | number => cases hword
  | string q =>
    have hstart : lexFrom .between ((string q).render ++ s) =
        lexFrom (.quoted []) (q ++ byte '"' :: s) := by
      rw [render, List.cons_append, List.cons_append, List.append_assoc]
      rfl
    rw [hstart, lexFrom_quoted ht]
    rfl
  | _ => rfl

theorem isBlank_of_isBare (h : isBare c = true) : isBlank c = false ∧ c ≠ '"' := by
  constructor
  · by_contra hblank
    simp only [isBlank, Bool.not_eq_false, Bool.or_eq_true, beq_iff_eq] at hblank
    obtain ((rfl | rfl) | rfl) | rfl := hblank <;> cases h
  · rintro rfl
    cases h

/-- A word is read if nothing follows that belongs to it. -/
theorem lexFrom_render_word (hword : t.isWord = true) (ht : t.IsSound) (hs : IsPastWord s) :
    lexFrom .between (t.render ++ s) = (lexFrom .between s).map (t :: ·) := by
  obtain ⟨run, hne, hrun, htoken, hrender⟩ := exists_ofBare? hword ht
  obtain ⟨c, word, rfl⟩ := List.exists_cons_of_ne_nil hne
  obtain ⟨hc, hword⟩ := List.forall_mem_cons.1 hrun
  have hstart : ∀ rest, lexFrom .between (byte c :: rest) = lexFrom (.bare [c]) rest := by
    intro rest
    obtain ⟨hblank, hquote⟩ := isBlank_of_isBare hc
    rw [lexFrom, ofUInt8_byte hc, hblank, if_neg Bool.false_ne_true, if_neg hquote, if_pos hc]
  rw [hrender, List.map_cons, List.cons_append, hstart, lexFrom_bare hword hs]
  simp [htoken]

/-- **The tokens that a text spells are read from it**, if no word runs into the next token. -/
theorem lex_complete (h : Spells ts s) (hts : Separated ts) : lex s = some ts := by
  rw [lex]
  induction h with
  | nil h =>
    rename_i s
    have hempty := lexFrom_blanks h []
    rw [List.append_nil] at hempty
    exact hempty
  | cons hblanks ht h ih =>
    rename_i blanks t ts s
    obtain ⟨hhead, hts⟩ := List.isChain_cons.1 hts
    rw [lexFrom_blanks hblanks]
    cases hword : t.isWord with
    | true =>
      have hpast : IsPastWord s := h.isPastWord fun u hu => hhead u hu hword
      rw [lexFrom_render_word hword ht hpast, ih hts]
      rfl
    | false =>
      rw [lexFrom_render hword ht, ih hts]
      rfl

end Token

end CloudClient.Json
