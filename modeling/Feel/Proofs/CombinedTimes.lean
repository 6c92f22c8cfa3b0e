import Feel.Operation.Calendar
import Feel.Proofs.ZonedTexts

/-!
# Days combined with times

A day and a time make a date-time at universal time, on that day. The time is moved there before, and
wraps around midnight. So taking a date-time apart and putting it together again gives its instant, unless
the local day is not the day at universal time; then the result is off by the day between them.
-/

namespace Feel.Proofs

lemma dateTimeAtUtc_eq (shown : LocalDateTime) :
    Operation.dateTimeAtUtc shown = .ok (.dateTime ⟨shown, .utc, none⟩) := by
  have hplaced : DateTime.atUtc shown = .ok ⟨shown, .utc, none⟩ :=
    atOffset_eq_ok_iff.mpr ⟨shown_of_position_eq none (sub_zero _).symm, rfl, rfl⟩
  rw [Operation.dateTimeAtUtc, hplaced]
  rfl

/-- A day with a time of day at universal time. -/
def combined (d : Date) (t : OffsetTime) : DateTime := ⟨⟨d, t.toUtc⟩, .utc, none⟩

lemma dateAndTime_combined [Zones] (d : Date) (t : OffsetTime) :
    Operation.dateAndTime [.date d, .time t] = .ok (.dateTime (combined d t)) :=
  dateTimeAtUtc_eq ⟨d, t.toUtc⟩

lemma toUtc_nanos (t : OffsetTime) : (t.toUtc.nanos : ℤ) = t.utcNanos % nanosPerDay :=
  Int.toNat_of_nonneg (Int.emod_nonneg _ (by decide))

lemma combined_instant (d : Date) (t : OffsetTime) :
    (combined d t).instant = d.dayNumber * nanosPerDay + t.utcNanos % nanosPerDay := by
  rw [DateTime.instant, LocalDateTime.position, combined, toUtc_nanos]

/-- The day at universal time has the number of the whole days before the instant. -/
lemma dayNumber_utc (t : DateTime) : t.utc.date.dayNumber = t.instant / nanosPerDay := by
  have hclock := t.utc.clock.lt
  unfold DateTime.instant LocalDateTime.position
  unfold nanosPerDay secondsPerDay nanosPerSecond at *
  omega

section Apart

variable {t : DateTime} {shown : LocalDateTime} (h : t.shown = .ok shown)

include h

lemma instant_eq :
    t.instant = shown.date.dayNumber * nanosPerDay + OffsetTime.utcNanos ⟨shown.clock, t.offset⟩ := by
  rw [instant_of_shown h]
  exact add_sub_assoc _ _ _

/-- What is put together differs by the days between the local day and the day at universal time. -/
lemma combined_instant_sub :
    (combined shown.date ⟨shown.clock, t.offset⟩).instant =
      t.instant + (shown.date.dayNumber - t.utc.date.dayNumber) * nanosPerDay := by
  rw [dayNumber_utc, combined_instant, instant_eq h]
  unfold nanosPerDay secondsPerDay nanosPerSecond
  omega

/-- The local day is the day at universal time, or one of the two is the day after the other. -/
lemma date_near_utc :
    shown.date = t.utc.date ∨ IsNextDay t.utc.date shown.date ∨ IsNextDay shown.date t.utc.date := by
  have hday := dayNumber_utc t
  have hoffset := t.offset.bounded
  have hclock := shown.clock.lt
  have hnanos : OffsetTime.utcNanos ⟨shown.clock, t.offset⟩ =
      shown.clock.nanos - t.offset.seconds * nanosPerSecond := rfl
  rw [instant_eq h, hnanos] at hday
  rw [isNextDay_iff, isNextDay_iff, ← dayNumber_injective.eq_iff]
  unfold nanosPerDay secondsPerDay nanosPerSecond at *
  omega

end Apart

/-- A date-time that is taken apart and put together again names its own instant if its day is the day at
universal time, the instant a day later if its day is the one after that, and the instant a day earlier if
its day is the one before. Beyond the calendar's ends it cannot be taken apart. On one day, times that are
equal give the same date-time. -/
theorem dateAndTime_recombines [Zones] :
    (∀ t : DateTime,
        (∀ shown, t.shown = .ok shown → ∃ day time r, Operation.date [.dateTime t] = .ok day ∧
          Operation.time [.dateTime t] = .ok time ∧
          Operation.dateAndTime [day, time] = .ok (.dateTime r) ∧
          (shown.date = t.utc.date → r.instant = t.instant) ∧
          (IsNextDay t.utc.date shown.date → r.instant = t.instant + nanosPerDay) ∧
          (IsNextDay shown.date t.utc.date → r.instant = t.instant - nanosPerDay) ∧
          (shown.date = t.utc.date ∨ IsNextDay t.utc.date shown.date ∨ IsNextDay shown.date t.utc.date)) ∧
        (¬IsShown t → Operation.date [.dateTime t] = .error (.panic .localOutOfRange) ∧
          Operation.time [.dateTime t] = .error (.panic .localOutOfRange))) ∧
      ∀ (d : Date) (s t : OffsetTime), (Value.time s == Value.time t) = true →
        ∃ r, Operation.dateAndTime [.date d, .time s] = .ok (.dateTime r) ∧
          Operation.dateAndTime [.date d, .time t] = .ok (.dateTime r) := by
  constructor
  · refine fun t => ⟨fun shown hshown => ?_, date_time_of_not_isShown⟩
    refine ⟨_, _, _, date_eq_ok hshown, time_eq_ok hshown, dateAndTime_combined _ _, ?_⟩
    rw [combined_instant_sub hshown, isNextDay_iff, isNextDay_iff, ← dayNumber_injective.eq_iff]
    refine ⟨fun h => ?_, fun h => ?_, fun h => ?_, ?_⟩
    · rw [h, sub_self, zero_mul, add_zero]
    · rw [h]
      ring
    · rw [h]
      ring
    · simpa only [isNextDay_iff, ← dayNumber_injective.eq_iff] using date_near_utc hshown
  · intro d s t h
    have hsame : combined d s = combined d t := by
      unfold combined OffsetTime.toUtc
      rw [time_beq.mp h]
    exact ⟨combined d s, dateAndTime_combined d s, hsame ▸ dateAndTime_combined d t⟩

/-- Half past midnight on the first of March, where clocks are fourteen hours ahead. -/
def firstOfMarch : DateTime where
  utc := ⟨⟨2024, 2, 29, by decide⟩, ⟨37800 * nanosPerSecond, by decide⟩⟩
  offset := { seconds := 14 * 3600 }
  zone := none

/-- There it is still the leap day at universal time. Two clocks that are half an hour before midnight
there show equal times. -/
theorem dateAndTime_recombines_leapDay :
    let shown : LocalDateTime := ⟨⟨2024, 3, 1, by decide⟩, ⟨1800 * nanosPerSecond, by decide⟩⟩
    let s : OffsetTime := ⟨⟨1800 * nanosPerSecond, by decide⟩, { seconds := 3600 }⟩
    let t : OffsetTime := ⟨⟨5400 * nanosPerSecond, by decide⟩, { seconds := 7200 }⟩
    firstOfMarch.shown = .ok shown ∧ IsNextDay firstOfMarch.utc.date shown.date ∧
      (∃ day time r, Operation.date [.dateTime firstOfMarch] = .ok day ∧
        Operation.time [.dateTime firstOfMarch] = .ok time ∧
        Operation.dateAndTime [day, time] = .ok (.dateTime r) ∧
        r.instant = firstOfMarch.instant + nanosPerDay) ∧
      ¬IsShown pastLastDay ∧ Operation.date [.dateTime pastLastDay] = .error (.panic .localOutOfRange) ∧
      (Value.time s == Value.time t) = true ∧
      ∃ r, Operation.dateAndTime [.date firstOfMarch.utc.date, .time s] = .ok (.dateTime r) ∧
        Operation.dateAndTime [.date firstOfMarch.utc.date, .time t] = .ok (.dateTime r) := by
  intro shown s t
  have hshown : firstOfMarch.shown = .ok shown := shown_eq_ok_iff.mpr (by decide +kernel)
  have hnext : IsNextDay firstOfMarch.utc.date shown.date := isNextDay_iff.mpr (by decide +kernel)
  have hequal : (Value.time s == Value.time t) = true := time_beq.mpr (by decide +kernel)
  obtain ⟨day, time, r, hdate, htime, hboth, -, hinstant, -⟩ :=
    (dateAndTime_recombines.1 firstOfMarch).1 shown hshown
  exact ⟨hshown, hnext, ⟨day, time, r, hdate, htime, hboth, hinstant hnext⟩, not_isShown_pastLastDay,
    ((dateAndTime_recombines.1 pastLastDay).2 not_isShown_pastLastDay).1, hequal,
    dateAndTime_recombines.2 _ s t hequal⟩

/-- A date-time that a literal names, whose local day would be the one after the calendar's last day, cannot
be put together again: there is neither its date nor its time. -/
theorem date_time_pastLastDay :
    Operation.dateAndTime [.string "+262142-12-31T23:30:00Z@Asia/Tokyo"] = .ok (.dateTime pastLastDay) ∧
      (¬∃ day, Operation.date [.dateTime pastLastDay] = .ok day) ∧
      ¬∃ time, Operation.time [.dateTime pastLastDay] = .ok time := by
  obtain ⟨hdate, htime⟩ := date_time_of_not_isShown not_isShown_pastLastDay
  refine ⟨dateAndTime_pastLastDay, ?_⟩
  simp [hdate, htime]

end Feel.Proofs
