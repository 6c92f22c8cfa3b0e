import Feel.Proofs.CalendarTexts
import Feel.Proofs.OffsetForms
import Feel.Proofs.WholeOutcomes

/-!
# Dates and times made of their fields

The functions that give the fields of a date or a time, and the functions that make dates and times of
fields, undo each other. A time keeps its offset on the way if it can be given by a duration: as whole
minutes, and not more than eighteen hours of them. A fraction of a second is no field. A date-time whose
local day lies beyond the calendar has no fields.
-/

namespace Feel.Proofs

/-! ### Dates -/

/-- A date, or the day that a date-time shows. -/
inductive HasDate : Value → Date → Prop
  | date (d : Date) : HasDate (.date d) d
  | dateTime {t : DateTime} {shown : LocalDateTime} (h : t.shown = .ok shown) :
      HasDate (.dateTime t) shown.date

lemma HasDate.localDate {v : Value} {d : Date} (h : HasDate v d) : Operation.localDate v = .ok d := by
  cases h with
  | date => rfl
  | dateTime h =>
    rw [Operation.localDate, date_of_shown h]
    rfl

lemma dateField_eq_ok {v : Value} {d : Date} (h : HasDate v d) (field : Date → ℤ) :
    Operation.dateField field [v] = .ok (.ofInt (field d)) := by
  have hfield : Operation.dateField field [v] = do return .ofInt (field (← Operation.localDate v)) := by
    cases h <;> rfl
  rw [hfield, h.localDate]
  rfl

lemma HasDate.date_eq_ok {v : Value} {d : Date} (h : HasDate v d) :
    Operation.date [v] = .ok (.date d) := by
  cases h with
  | date => rfl
  | dateTime h => exact Feel.Proofs.date_eq_ok h

/-- The fields of a day are within the bounds of the words that they are taken as. -/
lemma dateOfFields_self (d : Date) :
    Operation.dateOfFields (.ofInt d.year) (.ofInt d.month) (.ofInt d.day) = .ok (.date d) := by
  obtain ⟨⟨hmin, hmax⟩, ⟨-, hmonth⟩, -, hday⟩ := d.valid
  have hlength := monthLength_le d.year d.month
  have hyear : -2 ^ 31 ≤ d.year ∧ d.year < 2 ^ 31 := by
    unfold Date.minYear at hmin
    unfold Date.maxYear at hmax
    omega
  have hself : Date.ofFields? d.year d.month d.day = some d := dif_pos d.valid
  simp only [Operation.dateOfFields, Value.ofInt, Value.toNumber, bind, Except.bind, halfWord_ofInt hyear,
    count_ofInt (by omega : d.month < 2 ^ 32), count_ofInt (by omega : d.day < 2 ^ 32), hself]
  rfl

/-! ### Times -/

/-- A time, or the time of day that a date-time shows, with its offset. -/
inductive HasTime : Value → OffsetTime → Prop
  | time (t : OffsetTime) : HasTime (.time t) t
  | dateTime {t : DateTime} {shown : LocalDateTime} (h : t.shown = .ok shown) :
      HasTime (.dateTime t) ⟨shown.clock, t.offset⟩

lemma HasTime.localTime {v : Value} {t : OffsetTime} (h : HasTime v t) : Operation.localTime v = .ok t := by
  cases h with
  | time => rfl
  | dateTime h =>
    rw [Operation.localTime, time_of_shown h]
    rfl

lemma timeField_eq_ok {v : Value} {t : OffsetTime} (h : HasTime v t) (field : Clock → ℕ) :
    Operation.timeField field [v] = .ok (.ofInt (field t.clock)) := by
  have hfield : Operation.timeField field [v] =
      do return .ofInt (field (← Operation.localTime v).clock) := by
    cases h <;> rfl
  rw [hfield, h.localTime]
  rfl

lemma timezone_eq_ok {v : Value} {t : OffsetTime} (h : HasTime v t) :
    Operation.timezone [v] = .ok (.duration (.ofMinutes (t.offset.seconds.tdiv 60))) := by
  have hfield : Operation.timezone [v] =
      do return .duration (.ofMinutes ((← Operation.localTime v).offset.seconds.tdiv 60)) := by
    cases h <;> rfl
  rw [hfield, h.localTime]
  rfl

lemma HasTime.time_eq_ok {v : Value} {t : OffsetTime} (h : HasTime v t) :
    Operation.time [v] = .ok (.time t) := by
  cases h with
  | time => rfl
  | dateTime h => exact Feel.Proofs.time_eq_ok h

/-- Without a fraction of a second, the clock shows the time of its fields. -/
lemma clockOfFields_self {c : Clock} (h : c.nano = 0) :
    Operation.clockOfFields (.ofInt c.hour) (.ofInt c.minute) (.ofInt c.second) = .ok c := by
  obtain ⟨hhour, hminute, hsecond, -⟩ := clock_fields_lt c
  have hself := clock_ofFields?_self c
  rw [h] at hself
  simp only [Operation.clockOfFields, Value.ofInt, Value.toNumber, bind, Except.bind,
    count_ofInt (by omega : c.hour < 2 ^ 32), count_ofInt (by omega : c.minute < 2 ^ 32),
    splitSeconds_ofInt (by omega : c.second < 2 ^ 32), hself]
  rfl

/-- Whole minutes, and not more than eighteen hours of them. -/
def IsDurationOffset (o : Offset) : Prop := 60 ∣ o.seconds ∧ |o.seconds| ≤ 18 * 60 * 60

/-- The sign, the hours and the minutes of an offset. -/
def signedMinutes (o : Offset) : SignedMinutes where
  negative := decide (o.seconds < 0)
  hours := o.seconds.natAbs / 3600
  minutes := o.seconds.natAbs / 60 % 60
  hours_lt := by
    have hlt : o.seconds.natAbs < 86400 := o.bounded
    omega
  minutes_lt := Nat.mod_lt _ (by decide)

lemma signedMinutes_seconds {o : Offset} (h : IsDurationOffset o) :
    (signedMinutes o).seconds = o.seconds := by
  have hminutes := h.1
  simp only [SignedMinutes.seconds, signedMinutes, decide_eq_true_eq]
  split_ifs <;> omega

/-- The duration of such an offset is that of its sign, hours and minutes. -/
lemma ofMinutes_offset {o : Offset} (h : IsDurationOffset o) :
    Duration.ofMinutes (o.seconds.tdiv 60) = (signedMinutes o).duration := by
  rw [Duration.ofMinutes, SignedMinutes.duration, signedMinutes_seconds h, Int.tdiv_mul_cancel h.1]

lemma time_of_self {t : OffsetTime} (hnano : t.clock.nano = 0) (hoffset : IsDurationOffset t.offset) :
    Operation.time [.ofInt t.clock.hour, .ofInt t.clock.minute, .ofInt t.clock.second,
      .duration (.ofMinutes (t.offset.seconds.tdiv 60))] = .ok (.time t) := by
  have hseconds := signedMinutes_seconds hoffset
  have hbound : (signedMinutes t.offset).seconds.natAbs ≤ 18 * 3600 := by
    have hle := hoffset.2
    rw [Int.abs_eq_natAbs] at hle
    omega
  rw [ofMinutes_offset hoffset, time_of_fields _ (clockOfFields_self hnano), dif_pos hbound]
  simp only [SignedMinutes.offset, hseconds]

/-- The functions that take a date-time for what its calendar and its clock show. -/
def partsOfDateTime : List Operation :=
  [.date, .year, .month, .day, .time, .hour, .minute, .second, .timezone]

/-- Beyond the calendar's ends each of them stops the program. -/
lemma partsOfDateTime_eq_error {t : DateTime} (h : ¬IsShown t) :
    ∀ part ∈ partsOfDateTime, part [.dateTime t] = .error (.panic .localOutOfRange) := by
  obtain ⟨hdate, htime⟩ := date_time_of_not_isShown h
  have hdateField (field : Date → ℤ) :
      Operation.dateField field [.dateTime t] = .error (.panic .localOutOfRange) := by
    show (do return .ofInt (field (← Operation.localDate (.dateTime t))) : Except Fault Value) = _
    rw [localDate_eq_error h]
    rfl
  have htimeField {make : OffsetTime → Value} :
      Operation.onKnown (fun v => do return make (← Operation.localTime v)) [.dateTime t] =
        .error (.panic .localOutOfRange) := by
    show (do return make (← Operation.localTime (.dateTime t)) : Except Fault Value) = _
    rw [localTime_eq_error h]
    rfl
  simp only [partsOfDateTime, List.forall_mem_cons]
  exact ⟨hdate, hdateField _, hdateField _, hdateField _, htime, htimeField, htimeField, htimeField,
    htimeField, List.forall_mem_nil _⟩

/-- Any date, and any date-time that shows one, is made again of its year, month and day. A time, or that
of a date-time, is made again of its hour, minute, second and offset, if there is no fraction of a second
and a duration can give the offset. A date-time that shows nothing cannot be taken apart. -/
theorem fields_rebuild (v : Value) :
    (∀ d, HasDate v d → ∃ year month day,
        Operation.year [v] = .ok year ∧ Operation.month [v] = .ok month ∧ Operation.day [v] = .ok day ∧
        Operation.date [year, month, day] = .ok (.date d) ∧ Operation.date [v] = .ok (.date d)) ∧
      (∀ t, HasTime v t → t.clock.nano = 0 → IsDurationOffset t.offset → ∃ hour minute second offset,
        Operation.hour [v] = .ok hour ∧ Operation.minute [v] = .ok minute ∧
        Operation.second [v] = .ok second ∧ Operation.timezone [v] = .ok offset ∧
        Operation.time [hour, minute, second, offset] = .ok (.time t) ∧
        Operation.time [v] = .ok (.time t)) ∧
      ∀ t : DateTime, v = .dateTime t → ¬IsShown t →
        ∀ part ∈ partsOfDateTime, part [v] = .error (.panic .localOutOfRange) := by
  refine ⟨fun d h => ?_, fun t h hnano hoffset => ?_, ?_⟩
  · have hmade : Operation.date [.ofInt d.year, .ofInt d.month, .ofInt d.day] = .ok (.date d) :=
      dateOfFields_self d
    exact ⟨_, _, _, dateField_eq_ok h _, dateField_eq_ok h _, dateField_eq_ok h _, hmade, h.date_eq_ok⟩
  · exact ⟨_, _, _, _, timeField_eq_ok h _, timeField_eq_ok h _, timeField_eq_ok h _, timezone_eq_ok h,
      time_of_self hnano hoffset, h.time_eq_ok⟩
  · rintro t rfl hbeyond
    exact partsOfDateTime_eq_error hbeyond

/-- The first day of the calendar, and the last second before midnight on a clock as far behind universal
time as a duration can say. -/
theorem fields_rebuild_ends :
    let first : Date := ⟨-262143, 1, 1, by decide⟩
    let last : OffsetTime := ⟨⟨86399000000000, by decide⟩, { seconds := -64800 }⟩
    Operation.date [.ofInt (-262143), .ofInt 1, .ofInt 1] = .ok (.date first) ∧
      last.clock.nano = 0 ∧ IsDurationOffset last.offset ∧
      Operation.time [.ofInt 23, .ofInt 59, .ofInt 59, .duration (.nanos (-64800000000000))] =
        .ok (.time last) ∧
      ¬IsShown pastLastDay ∧ Operation.year [.dateTime pastLastDay] = .error (.panic .localOutOfRange) := by
  intro first last
  have hnano : last.clock.nano = 0 := by decide
  have hoffset : IsDurationOffset last.offset := by unfold IsDurationOffset; decide
  have hfields : (last.clock.hour : ℤ) = 23 ∧ (last.clock.minute : ℤ) = 59 ∧
      (last.clock.second : ℤ) = 59 ∧
      Duration.ofMinutes (last.offset.seconds.tdiv 60) = .nanos (-64800000000000) := by
    decide
  obtain ⟨year, month, day, hyear, hmonth, hday, hdate, -⟩ :=
    (fields_rebuild (.date first)).1 first (.date first)
  obtain ⟨hour, minute, second, offset, hhour, hminute, hsecond, hzone, htime, -⟩ :=
    (fields_rebuild (.time last)).2.1 last (.time last) hnano hoffset
  rw [← Except.ok.inj hyear, ← Except.ok.inj hmonth, ← Except.ok.inj hday] at hdate
  rw [← Except.ok.inj hhour, ← Except.ok.inj hminute, ← Except.ok.inj hsecond, ← Except.ok.inj hzone,
    hfields.1, hfields.2.1, hfields.2.2.1, hfields.2.2.2] at htime
  exact ⟨hdate, hnano, hoffset, htime, not_isShown_pastLastDay,
    (fields_rebuild (.dateTime pastLastDay)).2.2 pastLastDay rfl not_isShown_pastLastDay Operation.year
      (by simp [partsOfDateTime])⟩

/-- A date-time that a literal names, half an hour before the calendar's end, has no year in Tokyo. -/
theorem year_pastLastDay :
    Operation.dateAndTime [.string "+262142-12-31T23:30:00Z@Asia/Tokyo"] = .ok (.dateTime pastLastDay) ∧
      ¬∃ year, Operation.year [.dateTime pastLastDay] = .ok year := by
  have hyear := partsOfDateTime_eq_error not_isShown_pastLastDay Operation.year (by simp [partsOfDateTime])
  refine ⟨dateAndTime_pastLastDay, ?_⟩
  simp [hyear]

end Feel.Proofs
