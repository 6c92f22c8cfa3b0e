import Feel.Operation.Calendar
import Feel.Proofs.CalendarMonths
import Feel.Proofs.ZonedInstants

/-!
# Months between local date-times

The duration between two days counts the months by which the first one can be moved without coming after
the second one, and the way back is as long. It goes by what calendars and clocks show. Instants also
depend on the offsets, which differ by less than two days, and even the shortest month is longer. So a
duration that is not zero always tells which instant comes first.
-/

namespace Feel.Proofs
open LocalDateTime

lemma cmpWithinMonth_eq (a b : LocalDateTime) :
    a.cmpWithinMonth b = compare (withinMonth a) (withinMonth b) := by
  rw [withinMonth, withinMonth, Prod.Lex.compare_def]
  rfl

lemma monthsUntil_eq (a b : LocalDateTime) :
    a.monthsUntil b =
      if 0 < b.monthIndex - a.monthIndex ∧ withinMonth b < withinMonth a then
        b.monthIndex - a.monthIndex - 1
      else if b.monthIndex - a.monthIndex < 0 ∧ withinMonth a < withinMonth b then
        b.monthIndex - a.monthIndex + 1
      else b.monthIndex - a.monthIndex := by
  simp only [monthsUntil, cmpWithinMonth_eq, compare_lt_iff_lt, compare_gt_iff_gt]

lemma monthsUntil_swap (a b : LocalDateTime) : b.monthsUntil a = -a.monthsUntil b := by
  have hback : a.monthIndex - b.monthIndex = -(b.monthIndex - a.monthIndex) := (neg_sub _ _).symm
  rw [monthsUntil_eq, monthsUntil_eq, hback]
  simp only [neg_pos, neg_lt_zero]
  split_ifs <;> omega

/-- The months are the most by which the first date-time can be moved. -/
lemma isGreatest_monthsUntil {a b : LocalDateTime} (h : a.position ≤ b.position) :
    IsGreatest {m : ℤ | 0 ≤ m ∧ movedKey a m ≤ movedKey b 0} (a.monthsUntil b) := by
  rw [position_le_iff, movedKey_le_iff, add_zero, add_zero] at h
  have hstep : a.monthsUntil b = b.monthIndex - a.monthIndex ∧ withinMonth a ≤ withinMonth b ∨
      a.monthsUntil b = b.monthIndex - a.monthIndex - 1 ∧ 0 < b.monthIndex - a.monthIndex ∧
        withinMonth b < withinMonth a := by
    rw [monthsUntil_eq]
    obtain hle | hlt := le_or_gt (withinMonth a) (withinMonth b)
    · left
      rw [if_neg fun hback => hle.not_gt hback.2, if_neg fun hback => by omega]
      exact ⟨rfl, hle⟩
    · have hmonths := h.resolve_right fun hsame => hlt.not_ge hsame.2
      right
      rw [if_pos ⟨by omega, hlt⟩]
      exact ⟨rfl, by omega, hlt⟩
  simp only [movedKey_le_iff, add_zero]
  obtain ⟨hmonths, hwithin⟩ | ⟨hmonths, hpos, hwithin⟩ := hstep
  · rw [hmonths]
    refine ⟨⟨by omega, Or.inr ⟨by omega, hwithin⟩⟩, fun m hm => ?_⟩
    obtain ⟨-, hm⟩ := hm
    omega
  · rw [hmonths]
    refine ⟨⟨by omega, Or.inl (by omega)⟩, fun m hm => ?_⟩
    obtain ⟨-, hm | ⟨-, hm⟩⟩ := hm
    · omega
    · exact absurd hm hwithin.not_ge

inductive IsDated : Value → Prop
  | date (d : Date) : IsDated (.date d)
  | dateTime (t : DateTime) : IsDated (.dateTime t)

/-- A date stands for its midnight, and a date-time for what the calendar and the clock show. -/
inductive ShownBy : Value → LocalDateTime → Prop
  | date (d : Date) : ShownBy (.date d) (.startOf d)
  | dateTime {t : DateTime} {shown : LocalDateTime} (h : t.shown = .ok shown) : ShownBy (.dateTime t) shown

lemma localDateTime_eq_ok_iff {v : Value} {shown : LocalDateTime} :
    Operation.localDateTime v = .ok shown ↔ ShownBy v shown := by
  constructor
  · intro h
    cases v with
    | date d =>
      obtain rfl := Except.ok.inj h
      exact .date d
    | dateTime t => exact .dateTime (mapError_eq_ok_iff.mp h)
    | _ => exact absurd h (by simp [Operation.localDateTime, Value.fault])
  · rintro (_ | h)
    · rfl
    · exact mapError_eq_ok_iff.mpr h

lemma localDateTime_eq_error {v : Value} (hv : IsDated v) (h : ¬∃ shown, ShownBy v shown) :
    Operation.localDateTime v = .error (.panic .localOutOfRange) := by
  cases hv with
  | date d => exact absurd ⟨_, .date d⟩ h
  | dateTime t =>
    have hbeyond : ¬IsShown t := fun hshown => h ((isShown_iff.mp hshown).imp fun _ => .dateTime)
    exact mapError_eq_error_iff.mpr ⟨_, not_isShown_iff.mp hbeyond, rfl⟩

lemma yearsAndMonthsDuration_of_isDated {a b : Value} (ha : IsDated a) (hb : IsDated b) :
    Operation.yearsAndMonthsDuration [a, b] = do
      let s ← Operation.localDateTime a
      let t ← Operation.localDateTime b
      return .duration (.months (s.monthsUntil t)) := by
  cases ha <;> cases hb <;> rfl

lemma ShownBy.isDated {v : Value} {shown : LocalDateTime} (h : ShownBy v shown) : IsDated v := by
  cases h <;> constructor

lemma yearsAndMonthsDuration_eq {a b : Value} {s t : LocalDateTime} (ha : ShownBy a s) (hb : ShownBy b t) :
    Operation.yearsAndMonthsDuration [a, b] = .ok (.duration (.months (s.monthsUntil t))) := by
  rw [yearsAndMonthsDuration_of_isDated ha.isDated hb.isDated, localDateTime_eq_ok_iff.mpr ha,
    localDateTime_eq_ok_iff.mpr hb]
  rfl

lemma yearsAndMonthsDuration_eq_error {a b : Value} (ha : IsDated a) (hb : IsDated b)
    (h : (¬∃ s, ShownBy a s) ∨ ¬∃ t, ShownBy b t) :
    Operation.yearsAndMonthsDuration [a, b] = .error (.panic .localOutOfRange) := by
  rw [yearsAndMonthsDuration_of_isDated ha hb]
  by_cases hshown : ∃ s, ShownBy a s
  · obtain ⟨s, hs⟩ := hshown
    rw [localDateTime_eq_ok_iff.mpr hs, localDateTime_eq_error hb (h.resolve_left fun hnone => hnone ⟨s, hs⟩)]
    rfl
  · rw [localDateTime_eq_error ha hshown]
    rfl

lemma eq_monthsUntil {a b : Value} {s t : LocalDateTime} {m : ℤ} (ha : ShownBy a s) (hb : ShownBy b t)
    (h : Operation.yearsAndMonthsDuration [a, b] = .ok (.duration (.months m))) : m = s.monthsUntil t := by
  rw [yearsAndMonthsDuration_eq ha hb] at h
  exact (Duration.months.inj (Value.duration.inj (Except.ok.inj h))).symm

/-- The duration from one date or date-time to a later one has the most months by which the first can be
moved, with its day and its time kept, without coming after the second. The way back is its negation.
There is no duration, and the program stops, exactly if one of the two shows nothing. -/
theorem yearsAndMonthsDuration_isGreatest {a b : Value} (ha : IsDated a) (hb : IsDated b) :
    (∀ s t, ShownBy a s → ShownBy b t →
        ∃ m : ℤ, Operation.yearsAndMonthsDuration [a, b] = .ok (.duration (.months m)) ∧
          Operation.yearsAndMonthsDuration [b, a] = .ok (.duration (Duration.negate (.months m))) ∧
          (s.position ≤ t.position → IsGreatest {k : ℤ | 0 ≤ k ∧ movedKey s k ≤ movedKey t 0} m)) ∧
      ((¬∃ s, ShownBy a s) ∨ (¬∃ t, ShownBy b t) →
        Operation.yearsAndMonthsDuration [a, b] = .error (.panic .localOutOfRange) ∧
          Operation.yearsAndMonthsDuration [b, a] = .error (.panic .localOutOfRange)) := by
  refine ⟨fun s t hs ht => ⟨s.monthsUntil t, yearsAndMonthsDuration_eq hs ht, ?_, isGreatest_monthsUntil⟩,
    fun h => ⟨yearsAndMonthsDuration_eq_error ha hb h, yearsAndMonthsDuration_eq_error hb ha h.symm⟩⟩
  rw [yearsAndMonthsDuration_eq ht hs, monthsUntil_swap]
  rfl

/-- From a leap day to the last nanosecond of the day before the same day four years later. -/
theorem yearsAndMonthsDuration_isGreatest_leapDay :
    let s : LocalDateTime := .startOf ⟨2020, 2, 29, by decide⟩
    let t : LocalDateTime := ⟨⟨2024, 2, 28, by decide⟩, ⟨86399999999999, by decide⟩⟩
    s.position ≤ t.position ∧ ShownBy (.date s.date) s ∧ ShownBy (.dateTime ⟨t, .utc, none⟩) t ∧
      Operation.yearsAndMonthsDuration [.date s.date, .dateTime ⟨t, .utc, none⟩] =
        .ok (.duration (.months 47)) ∧
      Operation.yearsAndMonthsDuration [.dateTime ⟨t, .utc, none⟩, .date s.date] =
        .ok (.duration (.months (-47))) ∧
      IsGreatest {k : ℤ | 0 ≤ k ∧ movedKey s k ≤ movedKey t 0} 47 := by
  intro s t
  have hle : s.position ≤ t.position := by decide
  have hs : ShownBy (.date s.date) s := .date s.date
  have ht : ShownBy (.dateTime ⟨t, .utc, none⟩) t := .dateTime (shown_of_position_eq none (by decide))
  obtain ⟨m, hforth, hback, hmost⟩ := (yearsAndMonthsDuration_isGreatest (.date _) (.dateTime _)).1 s t hs ht
  obtain rfl : m = 47 := (eq_monthsUntil hs ht hforth).trans (by decide)
  exact ⟨hle, hs, ht, hforth, hback, hmost hle⟩

/-- From a date-time past the calendar's last day to itself there is no duration of zero months. -/
theorem yearsAndMonthsDuration_pastLastDay :
    Operation.dateAndTime [.string "+262142-12-31T23:30:00Z@Asia/Tokyo"] = .ok (.dateTime pastLastDay) ∧
      IsDated (.dateTime pastLastDay) ∧ ¬∃ m : ℤ, Operation.yearsAndMonthsDuration
        [.dateTime pastLastDay, .dateTime pastLastDay] = .ok (.duration (.months m)) := by
  refine ⟨dateAndTime_pastLastDay, .dateTime _, ?_⟩
  have hnone : ¬∃ s, ShownBy (.dateTime pastLastDay) s := by
    rintro ⟨s, ⟨⟩⟩
    case dateTime hshown => exact not_isShown_pastLastDay (isShown_iff.mpr ⟨s, hshown⟩)
  rw [yearsAndMonthsDuration_eq_error (.dateTime _) (.dateTime _) (.inl hnone)]
  simp

/-! ### Instants -/

lemma abs_offset_nanos_lt (o : Offset) : o.nanos.natAbs < nanosPerDay := by
  have hbound := o.bounded
  unfold Offset.nanos nanosPerDay secondsPerDay nanosPerSecond at *
  omega

lemma instant_lt_of_pos {a b : DateTime} {s t : LocalDateTime} (ha : a.shown = .ok s) (hb : b.shown = .ok t)
    (h : 0 < s.monthsUntil t) : a.instant < b.instant := by
  have hmoved : movedKey s 1 ≤ movedKey t 0 := by
    have hle : s.position ≤ t.position := by
      by_contra hlt
      have hback : 0 ≤ t.monthsUntil s := (isGreatest_monthsUntil (not_le.mp hlt).le).1.1
      rw [monthsUntil_swap] at hback
      omega
    obtain ⟨-, hreached⟩ := (isGreatest_monthsUntil hle).1
    exact (movedKey_mono s h).trans hreached
  have hposition := position_add_le hmoved
  have hoffsetA := abs_offset_nanos_lt a.offset
  have hoffsetB := abs_offset_nanos_lt b.offset
  rw [instant_of_shown ha, instant_of_shown hb]
  omega

/-- Date-times with a positive duration between them are in order, and those with a negative one are in
the opposite order, whatever their offsets are. There is a duration exactly if both show a local time. -/
theorem compare_of_yearsAndMonthsDuration (a b : DateTime) :
    ((∃ m : ℤ, Operation.yearsAndMonthsDuration [.dateTime a, .dateTime b] = .ok (.duration (.months m))) ↔
        IsShown a ∧ IsShown b) ∧
      ∀ m : ℤ, Operation.yearsAndMonthsDuration [.dateTime a, .dateTime b] = .ok (.duration (.months m)) →
        (0 < m → (Value.dateTime a).compare (.dateTime b) = .ok .lt) ∧
        (m < 0 → (Value.dateTime a).compare (.dateTime b) = .ok .gt) := by
  have hshown (m : ℤ) (h : Operation.yearsAndMonthsDuration [.dateTime a, .dateTime b] =
      .ok (.duration (.months m))) : ∃ s t, a.shown = .ok s ∧ b.shown = .ok t ∧ m = s.monthsUntil t := by
    have hboth : (∃ s, ShownBy (.dateTime a) s) ∧ ∃ t, ShownBy (.dateTime b) t := by
      by_contra hnone
      rw [yearsAndMonthsDuration_eq_error (.dateTime a) (.dateTime b) (not_and_or.mp hnone)] at h
      exact absurd h (by simp)
    obtain ⟨⟨s, hs⟩, t, ht⟩ := hboth
    have hmonths := eq_monthsUntil hs ht h
    obtain ⟨⟩ := hs
    obtain ⟨⟩ := ht
    exact ⟨s, t, by assumption, by assumption, hmonths⟩
  refine ⟨⟨?_, ?_⟩, fun m hm => ?_⟩
  · rintro ⟨m, hm⟩
    obtain ⟨s, t, hs, ht, -⟩ := hshown m hm
    exact ⟨isShown_iff.mpr ⟨s, hs⟩, isShown_iff.mpr ⟨t, ht⟩⟩
  · rintro ⟨ha, hb⟩
    obtain ⟨s, hs⟩ := isShown_iff.mp ha
    obtain ⟨t, ht⟩ := isShown_iff.mp hb
    exact ⟨_, yearsAndMonthsDuration_eq (.dateTime hs) (.dateTime ht)⟩
  · obtain ⟨s, t, hs, ht, rfl⟩ := hshown m hm
    refine ⟨fun h => congrArg _ (compare_lt_iff_lt.mpr (instant_lt_of_pos hs ht h)), fun h => ?_⟩
    have hback : 0 < t.monthsUntil s := by
      rw [monthsUntil_swap]
      omega
    exact congrArg _ (compare_gt_iff_gt.mpr (instant_lt_of_pos ht hs hback))

/-- From the first of February to the first of March, on clocks as far from each other as they can be. -/
theorem compare_of_yearsAndMonthsDuration_february :
    let a : DateTime := ⟨⟨⟨2023, 2, 1, by decide⟩, ⟨86399 * nanosPerSecond, by decide⟩⟩,
      { seconds := -86399 }, none⟩
    let b : DateTime := ⟨⟨⟨2023, 2, 28, by decide⟩, ⟨nanosPerSecond, by decide⟩⟩, { seconds := 86399 }, none⟩
    (Operation.yearsAndMonthsDuration [.dateTime a, .dateTime b] = .ok (.duration (.months 1)) ∧
        (0 : ℤ) < 1 ∧ (Value.dateTime a).compare (.dateTime b) = .ok .lt) ∧
      Operation.yearsAndMonthsDuration [.dateTime b, .dateTime a] = .ok (.duration (.months (-1))) ∧
        (-1 : ℤ) < 0 ∧ (Value.dateTime b).compare (.dateTime a) = .ok .gt := by
  intro a b
  have ha : ShownBy (.dateTime a) (.startOf ⟨2023, 2, 1, by decide⟩) :=
    .dateTime (shown_of_position_eq none (by decide))
  have hb : ShownBy (.dateTime b) (.startOf ⟨2023, 3, 1, by decide⟩) :=
    .dateTime (shown_of_position_eq none (by decide))
  have hforth : Operation.yearsAndMonthsDuration [.dateTime a, .dateTime b] = .ok (.duration (.months 1)) :=
    yearsAndMonthsDuration_eq ha hb
  have hback : Operation.yearsAndMonthsDuration [.dateTime b, .dateTime a] = .ok (.duration (.months (-1))) :=
    yearsAndMonthsDuration_eq hb ha
  exact ⟨⟨hforth, by decide, ((compare_of_yearsAndMonthsDuration a b).2 1 hforth).1 (by decide)⟩, hback,
    by decide, ((compare_of_yearsAndMonthsDuration b a).2 (-1) hback).2 (by decide)⟩

end Feel.Proofs
