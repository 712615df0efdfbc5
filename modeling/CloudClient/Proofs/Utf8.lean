import CloudClient.Text.Utf8

/-!
# Encoded text is read back

`Utf8.step` takes exactly one character off a text in UTF-8. The rules for lead bytes differ at the
edges, where overlong forms, surrogates and values beyond U+10FFFF are ruled out; `lead?_two`,
`lead?_three` and `lead?_four` have them as bounds on the *second* byte, and a character satisfies
them because it is none of these.
-/

namespace CloudClient.Utf8

/-- Letters and digits are characters of one byte. -/
theorem toNat_le_of_isAlphanum {c : Char} (h : c.isAlphanum = true) : c.toNat ≤ 0x7F := by
  have hbelow {high : UInt32} (hle : c.val ≤ high) (hhigh : high.toNat ≤ 0x7F) : c.toNat ≤ 0x7F :=
    Nat.le_trans (UInt32.le_iff_toNat_le.1 hle) hhigh
  rw [Char.isAlphanum, Bool.or_eq_true] at h
  rcases h with halpha | hdigit
  · obtain hupper | hlower := Bool.or_eq_true_iff.1 halpha
    · exact hbelow (of_decide_eq_true hupper).2 (by decide)
    · exact hbelow (of_decide_eq_true (Bool.and_eq_true_iff.1 hlower).2) (by decide)
  · exact hbelow (of_decide_eq_true (Bool.and_eq_true_iff.1 hdigit).2) (by decide)

/-! ## Continuation bytes -/

/-- The continuation byte with the lowest six bits of a number. -/
def tailByte (n : Nat) : UInt8 := UInt8.ofNat (n % 64 + 0x80)

theorem toNat_tailByte (n : Nat) : (tailByte n).toNat = n % 64 + 0x80 := by
  rw [tailByte, UInt8.toNat_ofNat']
  omega

@[simp] theorem payload_tailByte (n : Nat) : payload (tailByte n) = n % 64 := by
  rw [payload, toNat_tailByte]
  omega

@[simp] theorem isTail_tailByte (n : Nat) : isTail (tailByte n) = true := by
  simp only [isTail, Bool.and_eq_true, decide_eq_true_eq, UInt8.le_iff_toNat_le, toNat_tailByte]
  have h₁ : UInt8.toNat 0x80 = 0x80 := rfl
  have h₂ : UInt8.toNat 0xBF = 0xBF := rfl
  omega

@[simp] theorem tails_zero (v : Nat) (rest : Bytes) :
    tails 0 v rest = .character (Char.ofNat v) rest := by
  cases rest <;> rfl

@[simp] theorem tails_tailByte (more v n : Nat) (rest : Bytes) :
    tails (more + 1) v (tailByte n :: rest) = tails more (v * 64 + n % 64) rest := by
  rw [tails, if_pos (isTail_tailByte n), payload_tailByte]

/-! ## Lead bytes -/

theorem lead?_two : ∀ n < 32, n < 2 ∨
    ¬ UInt8.ofNat (n + 0xC0) < 0x80 ∧
      lead? (UInt8.ofNat (n + 0xC0)) = some (n, 0x80, 0xBF, 0) := by decide

theorem lead?_three : ∀ n < 16,
    ¬ UInt8.ofNat (n + 0xE0) < 0x80 ∧
      lead? (UInt8.ofNat (n + 0xE0)) =
        some (n, if n = 0 then 0xA0 else 0x80, if n = 13 then 0x9F else 0xBF, 1) := by decide

theorem lead?_four : ∀ n < 5,
    ¬ UInt8.ofNat (n + 0xF0) < 0x80 ∧
      lead? (UInt8.ofNat (n + 0xF0)) =
        some (n, if n = 0 then 0x90 else 0x80, if n = 4 then 0x8F else 0xBF, 2) := by decide

/-- After a lead byte and a second byte within its bounds, the continuation bytes follow. -/
theorem step_lead {b low high : UInt8} {v more n : Nat} {rest : Bytes} (hb : ¬ b < 0x80)
    (hlead : lead? b = some (v, low, high, more)) (hlow : low.toNat ≤ n % 64 + 0x80)
    (hhigh : n % 64 + 0x80 ≤ high.toNat) :
    step (b :: tailByte n :: rest) = tails more (v * 64 + n % 64) rest := by
  have hbounds : low ≤ tailByte n && tailByte n ≤ high := by
    simp only [Bool.and_eq_true, decide_eq_true_eq, UInt8.le_iff_toNat_le, toNat_tailByte]
    exact ⟨hlow, hhigh⟩
  simp only [step, if_neg hb, hlead, hbounds, if_true, payload_tailByte]

/-! ## Characters -/

/-- The bytes of a character, by its value. -/
theorem utf8EncodeChar_eq (c : Char) :
    String.utf8EncodeChar c =
      if c.toNat ≤ 0x7F then [UInt8.ofNat c.toNat]
      else if c.toNat ≤ 0x7FF then
        [UInt8.ofNat (c.toNat / 64 % 32 + 0xC0), tailByte c.toNat]
      else if c.toNat ≤ 0xFFFF then
        [UInt8.ofNat (c.toNat / 4096 % 16 + 0xE0), tailByte (c.toNat / 64), tailByte c.toNat]
      else
        [UInt8.ofNat (c.toNat / 262144 % 8 + 0xF0), tailByte (c.toNat / 4096),
          tailByte (c.toNat / 64), tailByte c.toNat] := rfl

/-- **One step reads one character.** -/
theorem step_utf8EncodeChar (c : Char) (rest : Bytes) :
    step (String.utf8EncodeChar c ++ rest) = .character c rest := by
  have hvalid : c.toNat < 0xD800 ∨ 0xDFFF < c.toNat ∧ c.toNat < 0x110000 := c.valid
  have hc : Char.ofNat c.toNat = c := Char.ofNat_toNat c
  generalize hv : c.toNat = v at hvalid hc
  rw [utf8EncodeChar_eq, hv]
  by_cases h₁ : v ≤ 0x7F
  · have hb : (UInt8.ofNat v).toNat = v := by
      rw [UInt8.toNat_ofNat']
      omega
    have hlt : UInt8.ofNat v < 0x80 := by
      rw [UInt8.lt_iff_toNat_lt, hb]
      exact Nat.lt_succ_of_le h₁
    simp only [if_pos h₁, List.singleton_append, step, if_pos hlt, hb, hc]
  by_cases h₂ : v ≤ 0x7FF
  · obtain ⟨hb, hlead⟩ := (lead?_two (v / 64 % 32) (by omega)).resolve_left (by omega)
    have hsum : v / 64 % 32 * 64 + v % 64 = v := by omega
    have h80 : UInt8.toNat 0x80 = 0x80 := rfl
    have hBF : UInt8.toNat 0xBF = 0xBF := rfl
    rw [if_neg h₁, if_pos h₂, List.cons_append, List.cons_append,
      step_lead hb hlead (by omega) (by omega), tails_zero, hsum, hc]
    rfl
  by_cases h₃ : v ≤ 0xFFFF
  · obtain ⟨hb, hlead⟩ := lead?_three (v / 4096 % 16) (by omega)
    have hsum : (v / 4096 % 16 * 64 + v / 64 % 64) * 64 + v % 64 = v := by omega
    rw [if_neg h₁, if_neg h₂, if_pos h₃, List.cons_append, List.cons_append, List.cons_append,
      step_lead hb hlead, tails_tailByte, tails_zero, hsum, hc]
    · rfl
    · -- the second byte rules out overlong forms
      split
      · have hA0 : UInt8.toNat 0xA0 = 0xA0 := rfl
        omega
      · have h80 : UInt8.toNat 0x80 = 0x80 := rfl
        omega
    · -- the second byte rules out surrogates
      split
      · have h9F : UInt8.toNat 0x9F = 0x9F := rfl
        omega
      · have hBF : UInt8.toNat 0xBF = 0xBF := rfl
        omega
  · obtain ⟨hb, hlead⟩ := lead?_four (v / 262144 % 8) (by omega)
    have hsum : ((v / 262144 % 8 * 64 + v / 4096 % 64) * 64 + v / 64 % 64) * 64 + v % 64 = v := by
      omega
    rw [if_neg h₁, if_neg h₂, if_neg h₃, List.cons_append, List.cons_append, List.cons_append,
      List.cons_append, step_lead hb hlead, tails_tailByte, tails_tailByte, tails_zero, hsum, hc]
    · rfl
    · -- the second byte rules out overlong forms
      split
      · have h90 : UInt8.toNat 0x90 = 0x90 := rfl
        omega
      · have h80 : UInt8.toNat 0x80 = 0x80 := rfl
        omega
    · -- the second byte rules out values beyond U+10FFFF
      split
      · have h8F : UInt8.toNat 0x8F = 0x8F := rfl
        omega
      · have hBF : UInt8.toNat 0xBF = 0xBF := rfl
        omega

/-! ## Texts -/

theorem pieces_encode (s : List Char) : ∀ fuel, (encode s).length ≤ fuel →
    pieces fuel (encode s) = s.map some := by
  induction s with
  | nil =>
    intro fuel _
    cases fuel <;> rfl
  | cons c s ih =>
    intro fuel hfuel
    have hcons : encode (c :: s) = String.utf8EncodeChar c ++ encode s := List.flatMap_cons
    have hpos : 0 < (String.utf8EncodeChar c).length :=
      List.length_pos_iff.2 String.utf8EncodeChar_ne_nil
    rw [hcons, List.length_append] at hfuel
    obtain ⟨fuel, rfl⟩ : ∃ n, fuel = n + 1 := ⟨fuel - 1, by omega⟩
    rw [hcons, pieces, step_utf8EncodeChar]
    exact congrArg (some c :: ·) (ih fuel (by omega))

/-- **Encoded text is read back.** -/
theorem decodeLossy_encode (s : List Char) : decodeLossy (encode s) = s := by
  rw [decodeLossy, pieces_encode s _ (Nat.le_refl _), List.map_map]
  exact List.map_id s

end CloudClient.Utf8
