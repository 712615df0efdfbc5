import CloudClient.Number.Decimal
import CloudClient.Text.Blank
import Mathlib.Algebra.Group.Nat.Defs

/-!
# Digits of numbers

A number can be written with zeros in front. They change nothing about what is read, and they make
all numbers below a power of ten equally long, so that a reader can tell where one ends.

* `Decimal.value_padded` — the number is read back.
* `Decimal.length_padded` — how many digits there are.
* `Decimal.head?_ofNat` — without zeros in front, only zero starts with a zero.
-/

namespace CloudClient

/-- Digits are no blanks. -/
theorem Blank.isBlank_of_isDigit {c : Char} (h : c.isDigit = true) : isBlank c = false := by
  rw [Char.isDigit, Bool.and_eq_true, decide_eq_true_eq, decide_eq_true_eq, ge_iff_le,
    UInt32.le_iff_toNat_le, UInt32.le_iff_toNat_le] at h
  have hlow : 48 ≤ c.toNat := h.1
  have hhigh : c.toNat ≤ 57 := h.2
  simp only [isBlank, ranges, List.any_cons, List.any_nil, Bool.or_false, Bool.or_eq_false_iff,
    Bool.and_eq_false_iff, decide_eq_false_iff_not]
  omega

namespace Decimal

variable {n width : Nat} {c : Char}

theorem ofNat_ne_nil (n : Nat) : ofNat n ≠ [] := Nat.toDigits_ne_nil

theorem value_ofNat (n : Nat) : value (ofNat n) = n := Nat.ofDigitChars_ten_toDigits

theorem value_append (s t : List Char) : value (s ++ t) = 10 ^ t.length * value s + value t := by
  rw [value, Nat.ofDigitChars_append, Nat.ofDigitChars_eq_ofDigitChars_zero, value, value]

/-- **A number is read back**, whatever the width. -/
theorem value_padded (width n : Nat) : value (padded width n) = n := by
  have hzeros : value (List.replicate (width - (ofNat n).length) '0') = 0 := by
    rw [value, Nat.ofDigitChars_replicate_zero, Nat.mul_zero]
  rw [padded, value_append, hzeros, value_ofNat, Nat.mul_zero, Nat.zero_add]

theorem isDigit_of_mem_padded (h : c ∈ padded width n) : c.isDigit = true := by
  rw [padded, List.mem_append] at h
  rcases h with h | h
  · obtain rfl := List.eq_of_mem_replicate h
    rfl
  · exact isDigit_of_mem_ofNat h

theorem padded_ne_nil (width n : Nat) : padded width n ≠ [] := by
  rw [padded]
  exact List.append_ne_nil_of_right_ne_nil _ (ofNat_ne_nil n)

theorem length_ofNat_le (hwidth : 0 < width) (h : n < 10 ^ width) : (ofNat n).length ≤ width :=
  (Nat.length_toDigits_le_iff (by decide) hwidth).2 h

/-- A number that fits into the width has just as many digits. -/
theorem length_padded (hwidth : 0 < width) (h : n < 10 ^ width) :
    (padded width n).length = width := by
  have hle := length_ofNat_le hwidth h
  rw [padded, List.length_append, List.length_replicate]
  omega

/-- Digits denote a number that fits into as many places. -/
theorem value_lt {s : List Char} (h : ∀ c ∈ s, c.isDigit = true) : value s < 10 ^ s.length := by
  induction s with
  | nil => exact Nat.one_pos
  | cons c s ih =>
    obtain ⟨hc, hs⟩ := List.forall_mem_cons.1 h
    have hdigit : value [c] ≤ 9 := by
      rw [Char.isDigit, Bool.and_eq_true, decide_eq_true_eq, decide_eq_true_eq] at hc
      have hle : c.toNat ≤ 57 := UInt32.le_iff_toNat_le.1 hc.2
      have hvalue : value [c] = c.toNat - 48 := Nat.zero_add _
      omega
    have hmul := Nat.mul_le_mul_left (10 ^ s.length) hdigit
    have hrest := ih hs
    rw [← List.singleton_append, value_append, List.length_append, List.length_singleton,
      Nat.pow_add]
    omega

/-- Without zeros in front, only zero starts with a zero. -/
theorem head?_ofNat (h : (ofNat n).head? = some '0') : n = 0 := by
  induction n using Nat.strongRecOn with
  | ind n ih =>
    rw [ofNat, Nat.toDigits_eq_if (by decide)] at h
    split at h
    · rename_i hlt
      exact (by decide : ∀ m < 10, some m.digitChar = some '0' → m = 0) n hlt h
    · obtain ⟨c, rest, hrest⟩ := List.exists_cons_of_ne_nil (ofNat_ne_nil (n / 10))
      have hhead : (ofNat (n / 10)).head? = some '0' := by
        rw [ofNat] at hrest ⊢
        rw [hrest] at h ⊢
        exact h
      have hzero := ih (n / 10) (by omega) hhead
      omega

end Decimal

end CloudClient
