import CloudClient.Time.Civil
import Mathlib.Tactic.IntervalCases
import Mathlib.Tactic.Ring

/-!
# Days and dates

Days are counted through eras of 400 years, years that begin in March, and months that repeat a
pattern of lengths every five. Each of these divides what the one before has left over, so that a
day is taken apart without a table, and nothing is lost.

* `Date.exists_yearOfEra` — a day of an era is a day of one of its years.
* `Date.ofDays_inv` — a day is a day of a month.
* `Date.toDays_ofDays` and `Date.isValid_ofDays` — hence the date of a day is a date that exists,
  and that of no other day.
-/

namespace CloudClient.Time.Date

theorem isValid_iff {d : Date} :
    d.isValid = true ↔
      1 ≤ d.month ∧ d.month ≤ 12 ∧ 1 ≤ d.day ∧ d.day ≤ daysInMonth d.year d.month := by
  simp only [isValid, Bool.and_eq_true, decide_eq_true_eq, and_assoc]

/-! ## Years from March on -/

/-- The year, counted from March, ends with a leap day. -/
def EndsInLeapDay (year : Int) : Prop := isLeapYear (year + 1) = true

/-- The day of an era on which a year of it begins. -/
def firstOfYear (year : Int) : Int := 365 * year + year / 4 - year / 100

/-- The year that `ofDays` finds for a day of an era. -/
def yearOfEra (day : Int) : Int := (day - day / 1460 + day / 36524 - day / 146096) / 365

/-- **A day of an era is a day of one of its years**: the 366th only of one that ends with a leap
day. -/
theorem exists_yearOfEra {day : Int} (h : 0 ≤ day) (hlt : day < eraDays) :
    0 ≤ yearOfEra day ∧ yearOfEra day < 400 ∧
      ∃ dayOfYear, day = firstOfYear (yearOfEra day) + dayOfYear ∧ 0 ≤ dayOfYear ∧
        (dayOfYear < 365 ∨ dayOfYear = 365 ∧ EndsInLeapDay (yearOfEra day)) := by
  rw [eraDays] at hlt
  by_cases hlast : day = 146096
  · subst hlast
    exact ⟨by decide, by decide, 365, by decide, by decide, .inr ⟨rfl, rfl⟩⟩
  -- centuries of 36524 days, and in them groups of four years with 1461 days
  obtain ⟨century, rest, hrest, hrest', rfl⟩ :
      ∃ century rest, 0 ≤ rest ∧ rest < 36524 ∧ day = 36524 * century + rest :=
    ⟨day / 36524, day % 36524, by omega, by omega, by omega⟩
  obtain ⟨group, left, hleft, hleft', rfl⟩ :
      ∃ group left, 0 ≤ left ∧ left < 1461 ∧ rest = 1461 * group + left :=
    ⟨rest / 1461, rest % 1461, by omega, by omega, by omega⟩
  obtain ⟨year, hyear⟩ : ∃ year, year = if left = 1460 then 3 else left / 365 := ⟨_, rfl⟩
  have hfound : yearOfEra (36524 * century + (1461 * group + left)) =
      100 * century + 4 * group + year := by
    have hgroups : (36524 * century + (1461 * group + left)) / 1460 =
        25 * century + group + (24 * century + group + left) / 1460 := by omega
    have hcentury : (36524 * century + (1461 * group + left)) / 36524 = century := by omega
    have hera : (36524 * century + (1461 * group + left)) / 146096 = 0 := by omega
    rw [yearOfEra, hgroups, hcentury, hera, hyear]
    split <;> omega
  have hbounds : 0 ≤ year ∧ year ≤ 3 ∧ 365 * year ≤ left ∧
      (left < 365 * year + 365 ∨ left = 1460 ∧ year = 3) := by
    rw [hyear]
    split <;> omega
  obtain ⟨hnonneg, hle, hstart, hend⟩ := hbounds
  clear hyear
  have hfirst : firstOfYear (100 * century + 4 * group + year) =
      36524 * century + 1461 * group + 365 * year := by
    have hfours : (100 * century + 4 * group + year) / 4 = 25 * century + group := by omega
    have hhundreds : (100 * century + 4 * group + year) / 100 = century := by omega
    rw [firstOfYear, hfours, hhundreds]
    ring
  rw [hfound, hfirst]
  refine ⟨by omega, by omega, left - 365 * year, by omega, by omega, ?_⟩
  rcases hend with hend | ⟨rfl, rfl⟩
  · exact .inl (by omega)
  · refine .inr ⟨rfl, ?_⟩
    simp only [EndsInLeapDay, isLeapYear, Bool.and_eq_true, Bool.or_eq_true, decide_eq_true_eq]
    omega

/-! ## Months from March on -/

/-- The month that a date shows for one that is counted from March as zero. -/
def shownMonth (month : Int) : Int := if month < 10 then month + 3 else month - 9

/-- The date of a day of a month, the month being counted from March of a year as zero. -/
def ofMarch (year month day : Int) : Date :=
  ⟨if shownMonth month ≤ 2 then year + 1 else year, (shownMonth month).toNat, day.toNat⟩

theorem year_ofMarch (year month day : Int) :
    (ofMarch year month day).year = if shownMonth month ≤ 2 then year + 1 else year := rfl

theorem month_ofMarch (year month day : Int) :
    (ofMarch year month day).month = (shownMonth month).toNat := rfl

theorem day_ofMarch (year month day : Int) : (ofMarch year month day).day = day.toNat := rfl

/-- The month of a day of a year, both counted from March. -/
def monthOfYear (day : Int) : Int := (5 * day + 2) / 153

/-- The day of the year on which a month begins, both counted from March. -/
def firstOfMonth (month : Int) : Int := (153 * month + 2) / 5

/-- The date of a day of a year, both counted from March. -/
def ofDayOfYear (year day : Int) : Date :=
  ofMarch year (monthOfYear day) (day - firstOfMonth (monthOfYear day) + 1)

theorem monthOfYear_mem {day : Int} (h : 0 ≤ day) (hle : day ≤ 365) :
    0 ≤ monthOfYear day ∧ monthOfYear day < 12 ∧ firstOfMonth (monthOfYear day) ≤ day := by
  rw [monthOfYear, firstOfMonth]
  omega

theorem shownMonth_mem {month : Int} (h : 0 ≤ month) (hlt : month < 12) :
    1 ≤ shownMonth month ∧ shownMonth month ≤ 12 ∧ (shownMonth month + 9) % 12 = month := by
  rw [shownMonth]
  split <;> omega

/-- The days of the month, from the day on which the next month begins; the last month of the year
is the one with the leap day. -/
theorem daysInMonth_shownMonth {month : Int} (year : Int) (h : 0 ≤ month) (hlt : month < 12) :
    (daysInMonth year (shownMonth month).toNat : Int) =
      if month = 11 then if isLeapYear year then 29 else 28
      else firstOfMonth (month + 1) - firstOfMonth month := by
  interval_cases month
  case «11» =>
    change ((if isLeapYear year then 29 else 28 : Nat) : Int) = if isLeapYear year then 29 else 28
    split <;> rfl
  all_goals rfl

theorem toDays_ofMarch {year month day : Int} (h : 0 ≤ month) (hlt : month < 12) (hday : 0 ≤ day) :
    (ofMarch year month day).toDays =
      year / 400 * eraDays + firstOfYear (year % 400) + firstOfMonth month + day - 1 - 719468 := by
  obtain ⟨hshown, -, hmonth⟩ := shownMonth_mem h hlt
  have hcast : ((shownMonth month).toNat : Int) = shownMonth month :=
    Int.toNat_of_nonneg (by omega)
  have hyear : (if (ofMarch year month day).month ≤ 2 then (ofMarch year month day).year - 1
      else (ofMarch year month day).year) = year := by
    rw [month_ofMarch, year_ofMarch]
    by_cases hle : shownMonth month ≤ 2
    · rw [if_pos (by omega), if_pos hle, add_sub_cancel_right]
    · rw [if_neg (by omega), if_neg hle]
  simp only [toDays, hyear]
  rw [month_ofMarch, day_ofMarch, hcast, hmonth, Int.toNat_of_nonneg hday, firstOfYear,
    firstOfMonth]
  ring

/-- A day of a year has a date that exists. -/
theorem isValid_ofDayOfYear {year day : Int} (h : 0 ≤ day)
    (hlt : day < 365 ∨ day = 365 ∧ EndsInLeapDay year) : (ofDayOfYear year day).isValid = true := by
  obtain ⟨hmonth, hmonth', hfirst⟩ := monthOfYear_mem h (by omega)
  obtain ⟨hshown, hshown', -⟩ := shownMonth_mem hmonth hmonth'
  have hnext : day < firstOfMonth (monthOfYear day + 1) := by
    rw [monthOfYear, firstOfMonth]
    omega
  have hlength := daysInMonth_shownMonth
    (if shownMonth (monthOfYear day) ≤ 2 then year + 1 else year) hmonth hmonth'
  rw [isValid_iff, ofDayOfYear, year_ofMarch, month_ofMarch, day_ofMarch]
  refine ⟨by omega, by omega, by omega, ?_⟩
  by_cases hlast : monthOfYear day = 11
  · have hyear : (if shownMonth (monthOfYear day) ≤ 2 then year + 1 else year) = year + 1 := by
      rw [hlast]
      rfl
    have hmarch : firstOfMonth (monthOfYear day) = 337 := by
      rw [hlast]
      rfl
    rw [hyear, if_pos hlast] at hlength
    rw [hyear, hmarch]
    rcases hlt with hlt | ⟨rfl, hleap⟩
    · split at hlength <;> omega
    · have hleap : isLeapYear (year + 1) = true := hleap
      rw [if_pos hleap] at hlength
      omega
  · rw [if_neg hlast] at hlength
    omega

/-- The leap days come again with each era. -/
theorem EndsInLeapDay.add_era {year : Int} (h : EndsInLeapDay year) (era : Int) :
    EndsInLeapDay (year + era * 400) := by
  simp only [EndsInLeapDay, isLeapYear, Bool.and_eq_true, Bool.or_eq_true, decide_eq_true_eq]
    at h ⊢
  omega

/-- **Inversion for the date of a day**: it is the date of a day of a year of an era. -/
theorem ofDays_inv (days : Int) :
    ∃ era year day, days + 719468 = era * eraDays + firstOfYear year + day ∧ 0 ≤ year ∧ year < 400 ∧
      0 ≤ day ∧ (day < 365 ∨ day = 365 ∧ EndsInLeapDay year) ∧
      ofDays days = ofDayOfYear (year + era * 400) day := by
  obtain ⟨hyear, hyear', day, hday, hpos, hlt⟩ :=
    exists_yearOfEra (Int.emod_nonneg (days + 719468) (by decide : eraDays ≠ 0))
      (Int.emod_lt_of_pos _ (by decide))
  refine ⟨(days + 719468) / eraDays, _, day, ?_, hyear, hyear', hpos, hlt, ?_⟩
  · rw [add_assoc, ← hday, mul_comm, Int.mul_ediv_add_emod]
  · rw [eq_sub_of_add_eq' hday.symm]
    rfl

/-! ## Days and their dates -/

/-- **The date of a day is that of no other day.** -/
theorem toDays_ofDays (days : Int) : (ofDays days).toDays = days := by
  obtain ⟨era, year, day, hdays, hyear, hyear', hday, hlt, heq⟩ := ofDays_inv days
  obtain ⟨hmonth, hmonth', hfirst⟩ := monthOfYear_mem hday (by omega)
  have hera : (year + era * 400) / 400 = era := by omega
  have hrest : (year + era * 400) % 400 = year := by omega
  rw [heq, ofDayOfYear, toDays_ofMarch hmonth hmonth' (by omega), hera, hrest]
  omega

/-- **The date of a day exists.** -/
theorem isValid_ofDays (days : Int) : (ofDays days).isValid = true := by
  obtain ⟨era, year, day, -, -, -, hday, hlt, heq⟩ := ofDays_inv days
  rw [heq]
  exact isValid_ofDayOfYear hday (hlt.imp_right fun h => ⟨h.1, h.2.add_era era⟩)

end CloudClient.Time.Date
