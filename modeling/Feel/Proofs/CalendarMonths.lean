import Feel.Calendar.LocalDateTime
import Feel.Proofs.DayNumbers

/-!
# Months of the calendar

Months are counted from the start of year zero. Each one starts on the day after the last day of the month
before, so that the number of a day is its place in its month, counted from the month's start. Days and
local date-times are therefore ordered by their months first.
-/

namespace Feel.Proofs
open Date

/-- The number of the first day of a month. -/
def monthStart (index : ℤ) : ℤ := dayNumberOf (index / 12) ((index % 12).toNat + 1) 1

/-- How many days a month has. -/
def daysOfMonth (index : ℤ) : ℕ := monthLength (index / 12) ((index % 12).toNat + 1)

lemma monthLength_ge (year : ℤ) (month : ℕ) : 28 ≤ monthLength year month := by
  unfold monthLength
  repeat' split
  all_goals omega

/-! ### Starts of months -/

lemma daysBeforeYear_pred (year : ℤ) :
    daysBeforeYear year = daysBeforeYear (year - 1) + 365 + if isLeapYear year then 1 else 0 := by
  have hleap : isLeapYear year = true ↔ year % 4 = 0 ∧ (year % 100 ≠ 0 ∨ year % 400 = 0) := by
    simp [isLeapYear]
  unfold daysBeforeYear
  split_ifs with h
  · rw [hleap] at h
    omega
  · rw [hleap] at h
    omega

/-- The first day of a month is numbered behind all days of the month before. -/
lemma dayNumberOf_succ (year : ℤ) {month : ℕ} (h : 1 ≤ month ∧ month < 12) :
    dayNumberOf year (month + 1) 1 = dayNumberOf year month 1 + monthLength year month := by
  by_cases hfebruary : month = 2
  · -- Only the end of February depends on the year, which starts in March for counting.
    subst hfebruary
    have hyear := daysBeforeYear_pred year
    have hlength : monthLength year 2 = if isLeapYear year then 29 else 28 := rfl
    rw [dayNumberOf, dayNumberOf, hlength, if_neg (by decide), if_pos (by decide),
      show daysBeforeMonth (2 + 1) = 0 by decide, show daysBeforeMonth 2 = 337 by decide]
    split_ifs at * <;> omega
  · have hdays : daysBeforeMonth (month + 1) = daysBeforeMonth month + monthLength year month := by
      obtain ⟨hone, htwelve⟩ := h
      interval_cases month <;> simp_all [daysBeforeMonth, monthLength]
    rw [dayNumberOf, dayNumberOf, hdays]
    split_ifs <;> omega

lemma dayNumberOf_succ_year (year : ℤ) :
    dayNumberOf (year + 1) 1 1 = dayNumberOf year 12 1 + monthLength year 12 := by
  simp [dayNumberOf, daysBeforeMonth, monthLength]
  omega

lemma monthStart_succ (index : ℤ) : monthStart (index + 1) = monthStart index + daysOfMonth index := by
  unfold monthStart daysOfMonth
  by_cases hlast : index % 12 = 11
  · have hyear : (index + 1) / 12 = index / 12 + 1 := by omega
    have hmonth : (index + 1) % 12 = 0 := by omega
    rw [hyear, hmonth, hlast]
    exact dayNumberOf_succ_year _
  · have hyear : (index + 1) / 12 = index / 12 := by omega
    have hmonth : ((index + 1) % 12).toNat + 1 = (index % 12).toNat + 1 + 1 := by omega
    rw [hyear, hmonth]
    exact dayNumberOf_succ _ (by omega)

lemma daysOfMonth_ge (index : ℤ) : 28 ≤ daysOfMonth index := monthLength_ge _ _

lemma monthStart_strictMono : StrictMono monthStart := by
  refine strictMono_int_of_lt_succ fun index => ?_
  have hlength := daysOfMonth_ge index
  rw [monthStart_succ]
  omega

/-- A month ends before each later one starts. -/
lemma monthStart_add_le {i j : ℤ} (h : i < j) : monthStart i + daysOfMonth i ≤ monthStart j := by
  rw [← monthStart_succ]
  exact monthStart_strictMono.monotone h

/-! ### Days of a month -/

lemma monthIndex_ediv (d : Date) : d.monthIndex / 12 = d.year ∧ (d.monthIndex % 12).toNat + 1 = d.month := by
  obtain ⟨-, ⟨hone, htwelve⟩, -⟩ := d.valid
  unfold Date.monthIndex
  omega

lemma dayNumber_eq (d : Date) : d.dayNumber = monthStart d.monthIndex + d.day - 1 := by
  obtain ⟨-, -, hday, -⟩ := d.valid
  rw [monthStart, (monthIndex_ediv d).1, (monthIndex_ediv d).2, Date.dayNumber, dayNumberOf, dayNumberOf]
  omega

lemma day_le (d : Date) : 1 ≤ d.day ∧ d.day ≤ daysOfMonth d.monthIndex := by
  obtain ⟨-, -, hday⟩ := d.valid
  rw [daysOfMonth, (monthIndex_ediv d).1, (monthIndex_ediv d).2]
  exact hday

lemma dayNumber_lt_of_monthIndex_lt {a b : Date} (h : a.monthIndex < b.monthIndex) :
    a.dayNumber < b.dayNumber := by
  have hstart := monthStart_add_le h
  have ha := day_le a
  have hb := day_le b
  rw [dayNumber_eq, dayNumber_eq]
  omega

lemma date_eq_iff {a b : Date} : a = b ↔ a.monthIndex = b.monthIndex ∧ a.day = b.day := by
  constructor
  · rintro rfl
    exact ⟨rfl, rfl⟩
  · rintro ⟨hmonth, hday⟩
    have ha := monthIndex_ediv a
    have hb := monthIndex_ediv b
    rw [hmonth] at ha
    cases a
    cases b
    simp only [Date.mk.injEq] at *
    exact ⟨ha.1.symm.trans hb.1, ha.2.symm.trans hb.2, hday⟩

lemma dayNumber_injective : Function.Injective Date.dayNumber := by
  intro a b h
  have hmonth : a.monthIndex = b.monthIndex := by
    by_contra hne
    obtain hlt | hlt := lt_or_gt_of_ne hne
    · exact (dayNumber_lt_of_monthIndex_lt hlt).ne h
    · exact (dayNumber_lt_of_monthIndex_lt hlt).ne h.symm
  rw [dayNumber_eq, dayNumber_eq, hmonth] at h
  exact date_eq_iff.mpr ⟨hmonth, by omega⟩

/-- The second day follows the first: it is the next one of the same month, or the first one of the next
month behind the last one of a month. -/
def IsNextDay (a b : Date) : Prop :=
  b.monthIndex = a.monthIndex ∧ b.day = a.day + 1 ∨
    a.day = daysOfMonth a.monthIndex ∧ b.monthIndex = a.monthIndex + 1 ∧ b.day = 1

lemma isNextDay_iff {a b : Date} : IsNextDay a b ↔ b.dayNumber = a.dayNumber + 1 := by
  have ha := day_le a
  have hb := day_le b
  rw [dayNumber_eq, dayNumber_eq, IsNextDay]
  obtain hlt | heq | hgt := lt_trichotomy a.monthIndex b.monthIndex
  · obtain hnext | hlater : b.monthIndex = a.monthIndex + 1 ∨ a.monthIndex + 1 < b.monthIndex := by omega
    · rw [hnext, monthStart_succ]
      omega
    · -- A whole month lies between the two.
      have hstart := monthStart_add_le hlater
      have hlength := daysOfMonth_ge (a.monthIndex + 1)
      rw [monthStart_succ] at hstart
      omega
  · rw [heq]
    omega
  · have hstart := monthStart_add_le hgt
    omega

/-! ### Local date-times -/

/-- The day of the month and the time of day. -/
def withinMonth (t : LocalDateTime) : ℕ ×ₗ ℕ := toLex (t.date.day, t.clock.nanos)

/-- The month, the day and the time of day, with the month moved and the others kept. -/
def movedKey (t : LocalDateTime) (months : ℤ) : ℤ ×ₗ ℕ ×ₗ ℕ := toLex (t.monthIndex + months, withinMonth t)

lemma movedKey_le_iff {a b : LocalDateTime} {m n : ℤ} :
    movedKey a m ≤ movedKey b n ↔ a.monthIndex + m < b.monthIndex + n ∨
      a.monthIndex + m = b.monthIndex + n ∧ withinMonth a ≤ withinMonth b :=
  Prod.Lex.toLex_le_toLex

lemma movedKey_mono (t : LocalDateTime) : Monotone (movedKey t) := by
  intro m n h
  rw [movedKey_le_iff]
  obtain rfl | hlt := h.eq_or_lt
  · exact Or.inr ⟨rfl, le_rfl⟩
  · exact Or.inl (by omega)

lemma withinMonth_le_iff {a b : LocalDateTime} :
    withinMonth a ≤ withinMonth b ↔
      a.date.day * nanosPerDay + a.clock.nanos ≤ b.date.day * nanosPerDay + b.clock.nanos := by
  have ha := a.clock.lt
  have hb := b.clock.lt
  rw [withinMonth, withinMonth, Prod.Lex.toLex_le_toLex]
  unfold nanosPerDay secondsPerDay nanosPerSecond at *
  omega

lemma position_eq (t : LocalDateTime) :
    t.position = (monthStart t.monthIndex - 1) * nanosPerDay +
      (t.date.day * nanosPerDay + t.clock.nanos : ℕ) := by
  rw [LocalDateTime.position, dayNumber_eq, LocalDateTime.monthIndex]
  push_cast
  ring

lemma position_lt_of_monthIndex_lt {a b : LocalDateTime} (h : a.monthIndex < b.monthIndex) :
    a.position < b.position := by
  have hday : a.date.dayNumber < b.date.dayNumber := dayNumber_lt_of_monthIndex_lt h
  have hclock := a.clock.lt
  unfold LocalDateTime.position nanosPerDay secondsPerDay nanosPerSecond at *
  omega

lemma position_le_iff_of_monthIndex_eq {a b : LocalDateTime} (h : a.monthIndex = b.monthIndex) :
    a.position ≤ b.position ↔ withinMonth a ≤ withinMonth b := by
  rw [position_eq, position_eq, h, withinMonth_le_iff]
  omega

/-- Local date-times are in the order of their months, days and times of day. -/
lemma position_le_iff {a b : LocalDateTime} : a.position ≤ b.position ↔ movedKey a 0 ≤ movedKey b 0 := by
  rw [movedKey_le_iff, add_zero, add_zero]
  obtain hlt | heq | hgt := lt_trichotomy a.monthIndex b.monthIndex
  · exact iff_of_true (position_lt_of_monthIndex_lt hlt).le (Or.inl hlt)
  · rw [position_le_iff_of_monthIndex_eq heq]
    simp [heq]
  · refine iff_of_false (position_lt_of_monthIndex_lt hgt).not_ge ?_
    omega

/-- A month has at least twenty-eight days, and so has the way to the same place of the next month, even if
that month is too short for it. -/
lemma position_add_le {a b : LocalDateTime} (h : movedKey a 1 ≤ movedKey b 0) :
    a.position + 28 * nanosPerDay ≤ b.position := by
  have hlength := daysOfMonth_ge a.monthIndex
  rw [movedKey_le_iff, add_zero] at h
  obtain hlt | ⟨hnext, hwithin⟩ := h
  · have hstart := monthStart_add_le hlt
    have hnext := daysOfMonth_ge (a.monthIndex + 1)
    have ha := day_le a.date
    have hb := day_le b.date
    have hclock := a.clock.lt
    rw [monthStart_succ] at hstart
    rw [position_eq, position_eq]
    unfold LocalDateTime.monthIndex nanosPerDay secondsPerDay nanosPerSecond at *
    omega
  · have hstart := monthStart_succ a.monthIndex
    rw [withinMonth_le_iff] at hwithin
    rw [position_eq, position_eq, ← hnext, hstart]
    unfold nanosPerDay secondsPerDay nanosPerSecond at *
    omega

end Feel.Proofs
