import CloudClient.Proofs.Calendar
import CloudClient.Proofs.Digits
import CloudClient.Time.Timestamp
import Mathlib.Data.List.TakeWhile

/-!
# Moments are read back

A moment is read with some tolerance, and written in one way. What is read always lies within the
years that dates are kept for, and a leap second only follows the last second of a minute; each such
moment is read back from its text.

* `Timestamp.IsKept` — the moments that can be read at all.
* `Timestamp.isKept_of_parse?` — no others are read.
* `Timestamp.parse?_text` — these are read back from what is written.
-/

namespace CloudClient.Time.Timestamp

/-- The moment can be read: it is one of a day in a year that dates are kept for, and perhaps in a
leap second. -/
structure IsKept (t : Timestamp) : Prop where
  year : isKeptYear (Date.ofDays t.day).year = true
  second : t.second < 86400
  nano : t.nano < 2 * Duration.nanosPerSecond
  leap : Duration.nanosPerSecond ≤ t.nano → t.second % 60 = 59

theorem isKept_epoch : epoch.IsKept := ⟨by decide, by decide, by decide, by decide⟩

/-! ## What is read -/

variable {t : Timestamp} {s rest : List Char}

/-- A fraction is one of a second. -/
theorem fraction_lt {nano : Nat} (h : fraction s = some (nano, rest)) :
    nano < Duration.nanosPerSecond := by
  rw [fraction.eq_def] at h
  split at h
  · rename_i s
    dsimp only at h
    split at h
    · cases h
    · obtain ⟨rfl, -⟩ := Prod.mk.inj (Option.some.inj h)
      have hdigits : ∀ c ∈ (s.takeWhile Char.isDigit).take 9, c.isDigit = true :=
        fun c hc => List.mem_takeWhile_imp (List.mem_of_mem_take hc)
      have hlt := Decimal.value_lt hdigits
      rw [List.length_take] at hlt
      have hplaces : Duration.nanosPerSecond = 10 ^ min 9 (s.takeWhile Char.isDigit).length *
          Nat.pow 10 (9 - (s.takeWhile Char.isDigit).length) := by
        rw [Nat.pow_eq, ← Nat.pow_add, show min 9 _ + (9 - _) = 9 by omega]
        rfl
      rw [hplaces]
      exact Nat.mul_lt_mul_of_pos_right hlt (Nat.pow_pos (by decide))
  · obtain ⟨rfl, -⟩ := Prod.mk.inj (Option.some.inj h)
    decide

/-- An offset is one of whole minutes. -/
theorem offset_mod {seconds : Int} (h : offset s = some (seconds, rest)) : seconds % 60 = 0 := by
  rw [offset.eq_def] at h
  split at h
  · obtain ⟨rfl, -⟩ := Prod.mk.inj (Option.some.inj h)
    rfl
  · obtain ⟨rfl, -⟩ := Prod.mk.inj (Option.some.inj h)
    rfl
  · obtain ⟨⟨sign, _⟩, -, h⟩ := Option.bind_eq_some_iff.1 h
    obtain ⟨⟨hours, _⟩, -, h⟩ := Option.bind_eq_some_iff.1 h
    obtain ⟨⟨minutes, _⟩, -, h⟩ := Option.bind_eq_some_iff.1 h
    obtain ⟨_, -, h⟩ := Option.bind_eq_some_iff.1 h
    obtain ⟨rfl, -⟩ := Prod.mk.inj (Option.some.inj h)
    exact Int.emod_eq_zero_of_dvd (Dvd.dvd.mul_left (by omega) sign)

/-- A moment so many seconds after the beginning of a day is kept if its year is. -/
theorem isKept_mk {day time : Int} {nano : Nat}
    (hyear : isKeptYear (Date.ofDays day).year = true) (hnano : nano < 2 * Duration.nanosPerSecond)
    (hleap : Duration.nanosPerSecond ≤ nano → time % 60 = 59) :
    IsKept ⟨day, (time % secondsPerDay).toNat, nano⟩ := by
  refine ⟨hyear, ?_, hnano, fun h => ?_⟩
  · change (time % 86400).toNat < 86400
    omega
  · have hminute := hleap h
    change (time % 86400).toNat % 60 = 59
    omega

theorem isKept_of_ofLocal? {date : Date} {hour minute second nano : Nat} {seconds : Int}
    (hnano : nano < Duration.nanosPerSecond) (hoffset : seconds % 60 = 0)
    (h : ofLocal? date hour minute second nano seconds = some t) : t.IsKept := by
  rw [ofLocal?] at h
  split at h
  · dsimp only at h
    by_cases hleap : second = 60
    · rw [if_pos hleap, if_pos hleap] at h
      split at h
      · rename_i hyear
        obtain rfl := Option.some.inj h
        exact isKept_mk hyear (by omega) fun _ => by omega
      · cases h
    · rw [if_neg hleap, if_neg hleap] at h
      split at h
      · rename_i hyear
        obtain rfl := Option.some.inj h
        exact isKept_mk hyear (by omega) fun h => by omega
      · cases h
  · cases h

/-- Reads a time of day with an offset, on a date. -/
def timeOn (date : Date) (s : List Char) : Option Timestamp := do
  let (hour, s) ← number 2 s
  let ((), s) ← separator ':' s
  let (minute, s) ← number 2 s
  let ((), s) ← separator ':' s
  let (second, s) ← number 2 s
  let (nano, s) ← fraction s
  let (offset, s) ← offset (Blank.trimStart s)
  guard (Blank.trimStart s).isEmpty
  ofLocal? date hour minute second nano offset

/-- A moment is a date and a time of day, with a letter or a blank between them. -/
theorem parse?_eq (s : String) :
    parse? s = (do
      let (year, s) ← year s.toList
      let ((), s) ← separator '-' s
      let (month, s) ← number 2 s
      let ((), s) ← separator '-' s
      let (day, s) ← number 2 s
      match s with
        | 'T' :: s | 't' :: s | ' ' :: s => timeOn ⟨year, month, day⟩ s
        | _ => none) := by
  rw [parse?]
  rfl

theorem isKept_of_timeOn {date : Date} (h : timeOn date s = some t) : t.IsKept := by
  rw [timeOn] at h
  obtain ⟨⟨hour, _⟩, -, h⟩ := Option.bind_eq_some_iff.1 h
  obtain ⟨⟨⟨⟩, _⟩, -, h⟩ := Option.bind_eq_some_iff.1 h
  obtain ⟨⟨minute, _⟩, -, h⟩ := Option.bind_eq_some_iff.1 h
  obtain ⟨⟨⟨⟩, _⟩, -, h⟩ := Option.bind_eq_some_iff.1 h
  obtain ⟨⟨second, _⟩, -, h⟩ := Option.bind_eq_some_iff.1 h
  obtain ⟨⟨nano, _⟩, hfraction, h⟩ := Option.bind_eq_some_iff.1 h
  obtain ⟨⟨seconds, _⟩, hoffset, h⟩ := Option.bind_eq_some_iff.1 h
  obtain ⟨_, -, h⟩ := Option.bind_eq_some_iff.1 h
  exact isKept_of_ofLocal? (fraction_lt hfraction) (offset_mod hoffset) h

/-- **What is read is kept.** -/
theorem isKept_of_parse? {s : String} (h : parse? s = some t) : t.IsKept := by
  rw [parse?_eq] at h
  obtain ⟨⟨year, _⟩, -, h⟩ := Option.bind_eq_some_iff.1 h
  obtain ⟨⟨⟨⟩, _⟩, -, h⟩ := Option.bind_eq_some_iff.1 h
  obtain ⟨⟨month, _⟩, -, h⟩ := Option.bind_eq_some_iff.1 h
  obtain ⟨⟨⟨⟩, _⟩, -, h⟩ := Option.bind_eq_some_iff.1 h
  obtain ⟨⟨day, _⟩, -, h⟩ := Option.bind_eq_some_iff.1 h
  dsimp only at h
  split at h
  · exact isKept_of_timeOn h
  · exact isKept_of_timeOn h
  · exact isKept_of_timeOn h
  · cases h

/-! ## What is written -/

theorem trimStart_of_not_isBlank {c : Char} (h : Blank.isBlank c = false) (s : List Char) :
    Blank.trimStart (c :: s) = c :: s := by
  rw [Blank.trimStart, List.dropWhile_cons, h, if_neg Bool.false_ne_true]

/-- As many digits as there may be are read as a number, whatever follows them. -/
theorem number_append {ds : List Char} (hne : ds ≠ []) (hds : ∀ c ∈ ds, c.isDigit = true)
    (rest : List Char) : number ds.length (ds ++ rest) = some (Decimal.value ds, rest) := by
  have htrim : Blank.trimStart (ds ++ rest) = ds ++ rest := by
    obtain ⟨c, ds, rfl⟩ := List.exists_cons_of_ne_nil hne
    exact trimStart_of_not_isBlank (Blank.isBlank_of_isDigit (hds c List.mem_cons_self)) _
  have hall : ds.takeWhile Char.isDigit = ds :=
    List.takeWhile_eq_self_iff.2 hds
  rw [number, htrim, List.take_left, hall, List.drop_left, if_neg (by simpa using hne)]

theorem number_padded {width n : Nat} (hwidth : 0 < width) (h : n < 10 ^ width)
    (rest : List Char) :
    number width (Decimal.padded width n ++ rest) = some (n, rest) := by
  have hread := number_append (Decimal.padded_ne_nil width n)
    (fun _ hc => Decimal.isDigit_of_mem_padded hc) rest
  rwa [Decimal.length_padded hwidth h, Decimal.value_padded] at hread

theorem separator_cons {c : Char} (h : Blank.isBlank c = false) (s : List Char) :
    separator c (c :: s) = some ((), s) := by
  rw [separator, trimStart_of_not_isBlank h]
  exact if_pos rfl

/-- Any number of digits are read up to something else. -/
theorem longNumber_append {ds : List Char} (hne : ds ≠ []) (hds : ∀ c ∈ ds, c.isDigit = true)
    {c : Char} (hc : c.isDigit = false) (rest : List Char) :
    longNumber (ds ++ c :: rest) = some (Decimal.value ds, c :: rest) := by
  have hall : (ds ++ c :: rest).takeWhile Char.isDigit = ds := by
    rw [List.takeWhile_append_of_pos hds, List.takeWhile_cons, hc, if_neg Bool.false_ne_true,
      List.append_nil]
  rw [longNumber, hall, List.drop_left, if_neg (by simpa using hne)]

theorem year_minus (s : List Char) :
    year ('-' :: s) = (longNumber s).map fun (n, s) => (-(n : Int), s) := by
  rw [year, trimStart_of_not_isBlank (by decide)]
  rfl

theorem year_plus (s : List Char) :
    year ('+' :: s) = (longNumber s).map fun (n, s) => ((n : Int), s) := by
  rw [year, trimStart_of_not_isBlank (by decide)]
  rfl

theorem year_of_isDigit {c : Char} (h : c.isDigit = true) (s : List Char) :
    year (c :: s) = (number 4 (c :: s)).map fun (n, s) => ((n : Int), s) := by
  rw [year, trimStart_of_not_isBlank (Blank.isBlank_of_isDigit h)]
  split
  · rename_i heq
    obtain rfl := (List.cons.inj heq).1
    cases h
  · rename_i heq
    obtain rfl := (List.cons.inj heq).1
    cases h
  · rfl

/-- **A year is read back.** -/
theorem year_yearChars (y : Int) (rest : List Char) :
    year (yearChars y ++ '-' :: rest) = some (y, '-' :: rest) := by
  rw [yearChars]
  split
  · rename_i hy
    have hread := number_padded (by decide : 0 < 4) (by omega : y.toNat < 10 ^ 4) ('-' :: rest)
    obtain ⟨c, ds, hcons⟩ := List.exists_cons_of_ne_nil (Decimal.padded_ne_nil 4 y.toNat)
    have hc : c.isDigit = true := Decimal.isDigit_of_mem_padded (hcons ▸ List.mem_cons_self)
    rw [hcons, List.cons_append] at hread
    rw [hcons, List.cons_append, year_of_isDigit hc, hread, Option.map_some]
    dsimp only
    rw [Int.toNat_of_nonneg hy.1]
  · have hread := longNumber_append (Decimal.padded_ne_nil 4 y.natAbs)
      (fun c hc => Decimal.isDigit_of_mem_padded hc) (by decide : '-'.isDigit = false) rest
    rw [Decimal.value_padded] at hread
    by_cases hneg : y < 0
    · rw [if_pos hneg, List.cons_append, year_minus, hread, Option.map_some]
      dsimp only
      rw [Int.ofNat_natAbs_of_nonpos hneg.le, neg_neg]
    · rw [if_neg hneg, List.cons_append, year_plus, hread, Option.map_some]
      dsimp only
      rw [Int.natAbs_of_nonneg (by omega)]

/-- The digits of a fraction are read as nanoseconds. -/
theorem fraction_padded {width n : Nat} (hwidth : 0 < width) (hle : width ≤ 9)
    (h : n < 10 ^ width) (rest : List Char) :
    fraction ('.' :: Decimal.padded width n ++ 'Z' :: rest) =
      some (n * 10 ^ (9 - width), 'Z' :: rest) := by
  have hall : (Decimal.padded width n ++ 'Z' :: rest).takeWhile Char.isDigit =
      Decimal.padded width n := by
    rw [List.takeWhile_append_of_pos fun c hc => Decimal.isDigit_of_mem_padded hc,
      List.takeWhile_cons, if_neg (by decide), List.append_nil]
  have hlength := Decimal.length_padded hwidth h
  rw [List.cons_append, fraction]
  simp only [hall]
  rw [if_neg (by simpa using Decimal.padded_ne_nil width n), List.drop_left, hlength,
    List.take_of_length_le (by omega), Decimal.value_padded]
  rfl

/-- **A fraction of a second is read back.** -/
theorem fraction_fractionChars {nano : Nat} (h : nano < Duration.nanosPerSecond)
    (rest : List Char) :
    fraction (fractionChars nano ++ 'Z' :: rest) = some (nano, 'Z' :: rest) := by
  have hsecond : Duration.nanosPerSecond = 10 ^ 9 := rfl
  have hmilli : Duration.nanosPerMilli = 10 ^ 6 := rfl
  rw [fractionChars, hmilli]
  rw [hsecond] at h
  split
  · rename_i hzero
    subst hzero
    rfl
  split
  · rw [fraction_padded (by decide) (by decide) (by omega)]
    congr 2
    omega
  split
  · rw [fraction_padded (by decide) (by decide) (by omega)]
    congr 2
    omega
  · rw [fraction_padded (by decide) (by decide) (by omega), Nat.sub_self, Nat.pow_zero,
      Nat.mul_one]

/-- A kept moment is the one of its date and time of day. -/
theorem IsKept.ofLocal?_eq (h : t.IsKept) :
    ofLocal? (Date.ofDays t.day) (t.second / 3600) (t.second / 60 % 60)
      (t.second % 60 + t.nano / Duration.nanosPerSecond) (t.nano % Duration.nanosPerSecond) 0 =
      some t := by
  obtain ⟨hyear, hsecond, hnano, hleap⟩ := h
  have hsecond' : Duration.nanosPerSecond = 1000000000 := rfl
  rw [hsecond'] at hnano hleap ⊢
  have hvalid : (isKeptYear (Date.ofDays t.day).year && (Date.ofDays t.day).isValid &&
      decide (t.second / 3600 < 24) && decide (t.second / 60 % 60 < 60) &&
      decide (t.second % 60 + t.nano / 1000000000 ≤ 60) && decide ((0 : Int).natAbs < 86400)) =
      true := by
    simp only [hyear, Date.isValid_ofDays, Bool.true_and, Bool.and_eq_true, decide_eq_true_eq]
    omega
  have htime : ((t.second / 3600 : Nat) : Int) * 3600 + (t.second / 60 % 60 : Nat) * 60 +
      (t.second % 60 : Nat) - 0 = t.second := by omega
  have hday : Date.toDays (Date.ofDays t.day) + (t.second : Int) / secondsPerDay = t.day := by
    have hzero : (t.second : Int) / 86400 = 0 := by omega
    rw [Date.toDays_ofDays, secondsPerDay, hzero, add_zero]
  have hrest : ((t.second : Int) % secondsPerDay).toNat = t.second := by
    change ((t.second : Int) % 86400).toNat = t.second
    omega
  rw [ofLocal?, if_pos hvalid]
  dsimp only
  by_cases hextra : 1000000000 ≤ t.nano
  · have hminute := hleap hextra
    have hlast : t.second % 60 + t.nano / 1000000000 = 60 := by omega
    have hnano' : t.nano % 1000000000 + Duration.nanosPerSecond = t.nano := by
      rw [hsecond']
      omega
    have htime' : ((t.second / 3600 : Nat) : Int) * 3600 + (t.second / 60 % 60 : Nat) * 60 +
        (59 : Nat) - 0 = t.second := by omega
    rw [if_pos hlast, if_pos hlast, hnano', htime', hday, hrest, if_pos hyear]
  · have hnone : t.nano / 1000000000 = 0 := by omega
    have hlast : t.second % 60 ≠ 60 := by omega
    rw [hnone, add_zero, if_neg hlast, if_neg hlast, htime, hday, hrest, if_pos hyear,
      Nat.mod_eq_of_lt (by omega)]

/-- A time of day in UTC is read up to the moment it is on the date. -/
theorem timeOn_append {date : Date} {hour minute second nano : Nat} (hhour : hour < 10 ^ 2)
    (hminute : minute < 10 ^ 2) (hsecond : second < 10 ^ 2)
    (hnano : nano < Duration.nanosPerSecond) :
    timeOn date (Decimal.padded 2 hour ++ ':' :: (Decimal.padded 2 minute ++
      ':' :: (Decimal.padded 2 second ++ (fractionChars nano ++ ['Z'])))) =
      ofLocal? date hour minute second nano 0 := by
  simp only [timeOn, number_padded (by decide : 0 < 2) hhour,
    number_padded (by decide : 0 < 2) hminute, number_padded (by decide : 0 < 2) hsecond,
    separator_cons (by decide : Blank.isBlank ':' = false), fraction_fractionChars hnano,
    trimStart_of_not_isBlank (by decide : Blank.isBlank 'Z' = false), Option.bind_eq_bind,
    Option.bind_some]
  rfl

/-- **A moment is read back** from its text, if it can be read at all. -/
theorem IsKept.parse?_text (h : t.IsKept) : parse? t.text = some t := by
  obtain ⟨hmonth, hday⟩ :
      (Date.ofDays t.day).month < 10 ^ 2 ∧ (Date.ofDays t.day).day < 10 ^ 2 := by
    have hdays : daysInMonth (Date.ofDays t.day).year (Date.ofDays t.day).month ≤ 31 := by
      rw [daysInMonth.eq_def]
      repeat' split
      all_goals decide
    have hvalid := Date.isValid_iff.1 (Date.isValid_ofDays t.day)
    omega
  have hlocal := h.ofLocal?_eq
  obtain ⟨hyear, hsecond, hnano, hleap⟩ := h
  rw [parse?_eq, text, String.toList_ofList]
  simp only [List.append_assoc, List.cons_append, year_yearChars, Option.bind_eq_bind,
    Option.bind_some, separator_cons (by decide : Blank.isBlank '-' = false),
    number_padded (by decide : 0 < 2) hmonth, number_padded (by decide : 0 < 2) hday]
  rw [timeOn_append, hlocal]
  · omega
  · omega
  · change t.nano < 2 * 1000000000 at hnano
    change t.second % 60 + t.nano / 1000000000 < 10 ^ 2
    omega
  · exact Nat.mod_lt _ (by decide)

end CloudClient.Time.Timestamp
