import Feel.Calendar.Date
import Mathlib

/-!
# Day numbers

Four hundred years are a cycle of days, and each day of it has a century, a span of four years, a year
and a day of a year from March. So the day with a number has that number, and the numbers of the
calendar's days are an interval.
-/

namespace Feel.Proofs
open Date

/-! ### The cycle of four hundred years -/

lemma yearOfCycle_eq {day c k t : ℕ} (hday : day = 36524 * c + 1461 * k + t) (hc : c ≤ 3) (hk : k ≤ 24)
    (ht : t ≤ 1460) (hlast : k = 24 → t = 1460 → c = 3) :
    yearOfCycle day = 100 * c + 4 * k + min (t / 365) 3 := by
  have hcentury : day / 36524 = c + day / 146096 := by
    by_cases hend : k = 24 ∧ t = 1460
    · obtain rfl := hlast hend.1 hend.2
      omega
    · have hfloor : day / 36524 = c := by omega
      omega
  by_cases hquad : 24 * c + k + t < 1460
  · have hfour : day / 1460 = 25 * c + k := by omega
    rw [yearOfCycle, hfour, hcentury]
    omega
  · have hfour : day / 1460 = 25 * c + k + 1 := by omega
    rw [yearOfCycle, hfour, hcentury]
    omega

/-- A day of the cycle has a century, a span of four years, a year and a day of that year. Only a leap
year has day 365. -/
lemma exists_cycle_parts {day : ℕ} (h : day < 146097) :
    ∃ c k j rest, c ≤ 3 ∧ k ≤ 24 ∧ j ≤ 3 ∧ rest ≤ 365 ∧
      day = 36524 * c + 1461 * k + 365 * j + rest ∧ yearOfCycle day = 100 * c + 4 * k + j ∧
      (rest = 365 → j = 3 ∧ (k = 24 → c = 3)) := by
  obtain ⟨c, hc⟩ : ∃ c, c = min (day / 36524) 3 := ⟨_, rfl⟩
  obtain ⟨k, hk⟩ : ∃ k, k = (day - 36524 * c) / 1461 := ⟨_, rfl⟩
  obtain ⟨t, ht⟩ : ∃ t, t = day - 36524 * c - 1461 * k := ⟨_, rfl⟩
  have hday : day = 36524 * c + 1461 * k + t := by omega
  have hyear := yearOfCycle_eq hday (by omega) (by omega) (by omega) (by omega)
  refine ⟨c, k, min (t / 365) 3, t - 365 * min (t / 365) 3, ?_, ?_, ?_, ?_, ?_, hyear, ?_⟩
  all_goals omega

/-! ### Months -/

lemma monthOfDay_bounds {rest : ℕ} (h : rest ≤ 365) : 1 ≤ monthOfDay rest ∧ monthOfDay rest ≤ 12 := by
  unfold monthOfDay
  dsimp only
  split_ifs <;> omega

lemma daysBeforeMonth_monthOfDay {rest : ℕ} (h : rest ≤ 365) :
    daysBeforeMonth (monthOfDay rest) = (153 * ((5 * rest + 2) / 153) + 2) / 5 := by
  unfold daysBeforeMonth monthOfDay
  dsimp only
  split_ifs <;> omega

lemma day_le_monthLength {rest : ℕ} {year : ℤ} (h : rest ≤ 365)
    (hleap : rest = 365 → isLeapYear year = true) :
    rest - daysBeforeMonth (monthOfDay rest) + 1 ≤ monthLength year (monthOfDay rest) := by
  rw [daysBeforeMonth_monthOfDay h]
  obtain ⟨index, hindex⟩ : ∃ i, i = (5 * rest + 2) / 153 := ⟨_, rfl⟩
  have hle : index ≤ 11 := by omega
  unfold monthOfDay
  rw [← hindex]
  by_cases hrest : rest = 365
  · subst hrest
    obtain rfl : index = 11 := by omega
    simp [monthLength, hleap rfl]
  · interval_cases index <;> simp [monthLength] <;> first | omega | (split <;> omega)

/-! ### Fields -/

/-- The last year of a span of four years is a leap year, but for most centuries. -/
lemma isLeapYear_last {cycle : ℤ} {c k : ℕ} (hk : k ≤ 24) (h : k = 24 → c = 3) :
    isLeapYear (400 * cycle + (100 * c + 4 * k + 3 : ℕ) + 1) = true := by
  by_cases hlast : k = 24
  · obtain rfl := h hlast
    simp [isLeapYear, hlast]
    omega
  · simp [isLeapYear]
    omega

lemma daysBeforeYear_cycle {cycle : ℤ} {c k j : ℕ} (hc : c ≤ 3) (hk : k ≤ 24) (hj : j ≤ 3) :
    daysBeforeYear (400 * cycle + (100 * c + 4 * k + j : ℕ)) =
      146097 * cycle + 36524 * c + 1461 * k + 365 * j := by
  have hfour : (400 * cycle + (100 * c + 4 * k + j : ℕ)) / 4 = 100 * cycle + 25 * c + k := by omega
  have hcentury : (400 * cycle + (100 * c + 4 * k + j : ℕ)) / 100 = 4 * cycle + c := by omega
  have hcycle : (400 * cycle + (100 * c + 4 * k + j : ℕ)) / 400 = cycle := by omega
  rw [daysBeforeYear, hfour, hcentury, hcycle]
  push_cast
  ring

/-- A day number has a day of a month that the number counts, and no other field limits the year. -/
lemma exists_fields (n : ℤ) :
    ∃ (year : ℤ) (month day : ℕ), ofDayNumber? n = ofFields? year month day ∧
      (1 ≤ month ∧ month ≤ 12) ∧ (1 ≤ day ∧ day ≤ monthLength year month) ∧
      dayNumberOf year month day = n := by
  obtain ⟨cycle, hcycle⟩ : ∃ c, c = (n - marchZero).fdiv 146097 := ⟨_, rfl⟩
  obtain ⟨days, hdays⟩ : ∃ d, d = ((n - marchZero).fmod 146097).toNat := ⟨_, rfl⟩
  have hsum := Int.fmod_add_mul_fdiv (n - marchZero) 146097
  have hnonneg := Int.fmod_nonneg_of_pos (n - marchZero) (by norm_num : (0 : ℤ) < 146097)
  have hlt := Int.fmod_lt_of_pos (n - marchZero) (by norm_num : (0 : ℤ) < 146097)
  obtain ⟨c, k, j, rest, hc, hk, hj, hrest, hsplit, hyear, hlast⟩ :=
    exists_cycle_parts (by omega : days < 146097)
  have hbefore : days - (365 * yearOfCycle days + yearOfCycle days / 4 - yearOfCycle days / 100) = rest := by
    rw [hyear, hsplit]
    omega
  obtain ⟨year, hyear'⟩ : ∃ y : ℤ, y = 400 * cycle + yearOfCycle days := ⟨_, rfl⟩
  refine ⟨if monthOfDay rest ≤ 2 then year + 1 else year, monthOfDay rest,
    rest - daysBeforeMonth (monthOfDay rest) + 1, ?_, monthOfDay_bounds hrest, ?_, ?_⟩
  · unfold ofDayNumber?
    simp only [← hcycle, ← hdays, hbefore, ← hyear']
  · refine ⟨by omega, day_le_monthLength hrest fun hleap => ?_⟩
    -- Day 365 falls in February, so that the year of the calendar is the next one.
    subst hleap
    obtain ⟨rfl, hcentury⟩ := hlast rfl
    rw [hyear', hyear, if_pos (by decide)]
    exact isLeapYear_last hk hcentury
  · have hmarch : (if monthOfDay rest ≤ 2 then (if monthOfDay rest ≤ 2 then year + 1 else year) - 1
        else (if monthOfDay rest ≤ 2 then year + 1 else year)) = year := by
      split_ifs <;> omega
    have hyears : daysBeforeYear year = 146097 * cycle + 36524 * c + 1461 * k + 365 * j := by
      rw [hyear', hyear, daysBeforeYear_cycle hc hk hj]
    have hday : (daysBeforeMonth (monthOfDay rest) : ℤ) +
        (rest - daysBeforeMonth (monthOfDay rest) + 1 - 1 : ℕ) = rest := by
      have hle : daysBeforeMonth (monthOfDay rest) ≤ rest := by
        rw [daysBeforeMonth_monthOfDay hrest]
        omega
      omega
    have hcast : ((n - marchZero).fmod 146097 : ℤ) = 36524 * c + 1461 * k + 365 * j + rest := by
      rw [← Int.toNat_of_nonneg hnonneg, ← hdays, hsplit]
      push_cast
      ring
    rw [dayNumberOf, hmarch, hyears]
    rw [← hcycle, hcast] at hsum
    linarith

/-! ### The calendar's range -/

/-- The number of the first day of a year. -/
def yearStart (year : ℤ) : ℤ := dayNumberOf year 1 1

lemma yearStart_eq (year : ℤ) : yearStart year = marchZero + daysBeforeYear (year - 1) + 306 := by
  rw [yearStart, dayNumberOf, if_pos (by decide), show daysBeforeMonth 1 = 306 by decide]
  omega

lemma yearStart_mono {a b : ℤ} (h : a ≤ b) : yearStart a ≤ yearStart b := by
  rw [yearStart_eq, yearStart_eq, daysBeforeYear, daysBeforeYear]
  omega

lemma dayNumberOf_mem_year {year : ℤ} {month day : ℕ} (hm : 1 ≤ month ∧ month ≤ 12)
    (hd : 1 ≤ day ∧ day ≤ monthLength year month) :
    yearStart year ≤ dayNumberOf year month day ∧ dayNumberOf year month day < yearStart (year + 1) := by
  have hlength : monthLength year month ≤ 31 := monthLength_le _ _
  have hgrow : daysBeforeYear (year - 1) + 365 ≤ daysBeforeYear year := by
    unfold daysBeforeYear
    omega
  rw [yearStart_eq, yearStart_eq, dayNumberOf, add_sub_cancel_right]
  by_cases hmarch : month ≤ 2
  · -- January and February are the last months of a year that starts in March.
    have hbefore : daysBeforeMonth month + 31 = 306 + 31 * month := by
      unfold daysBeforeMonth
      omega
    rw [if_pos hmarch]
    omega
  · have hbefore : daysBeforeMonth month + 31 ≤ 306 := by
      unfold daysBeforeMonth
      omega
    rw [if_neg hmarch]
    omega

/-- The days of the calendar are those with the numbers from the first to the last. -/
lemma isSome_ofDayNumber?_iff {n : ℤ} :
    (ofDayNumber? n).isSome = true ↔ yearStart minYear ≤ n ∧ n < yearStart (maxYear + 1) := by
  obtain ⟨year, month, day, hfields, hm, hd, hn⟩ := exists_fields n
  obtain ⟨hlow, hhigh⟩ := dayNumberOf_mem_year hm hd
  rw [hn] at hlow hhigh
  have hvalid : (ofFields? year month day).isSome = true ↔ minYear ≤ year ∧ year ≤ maxYear := by
    unfold ofFields?
    by_cases h : IsValid year month day
    · rw [dif_pos h]
      exact iff_of_true rfl h.1
    · rw [dif_neg h]
      exact iff_of_false (by simp) fun hy => h ⟨hy, hm, hd⟩
  rw [hfields, hvalid]
  constructor
  · rintro ⟨hmin, hmax⟩
    exact ⟨(yearStart_mono hmin).trans hlow, hhigh.trans_le (yearStart_mono (by omega))⟩
  · rintro ⟨hmin, hmax⟩
    constructor
    · by_contra hlt
      exact absurd (hhigh.trans_le (yearStart_mono (by omega : year + 1 ≤ minYear))) (not_lt.mpr hmin)
    · by_contra hlt
      exact absurd (hmax.trans_le (yearStart_mono (by omega : maxYear + 1 ≤ year))) (not_lt.mpr hlow)

lemma dayNumber_of_ofDayNumber? {n : ℤ} {d : Date} (h : ofDayNumber? n = some d) : d.dayNumber = n := by
  obtain ⟨year, month, day, hfields, -, -, hn⟩ := exists_fields n
  rw [hfields, ofFields?] at h
  split_ifs at h
  obtain rfl := Option.some.inj h
  exact hn

end Feel.Proofs
