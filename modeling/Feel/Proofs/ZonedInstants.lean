import Feel.Operation.Calendar
import Feel.Proofs.CalendarMonths
import Feel.Proofs.DayNumbers
import Feel.Proofs.Timelines

/-!
# Instants of local date-times

What a calendar and a clock show becomes an instant by an offset, which is given or is that of a zone. The
clocks of a zone may show one local date-time at several instants; the first one counts. Or they may skip
it, and then there is no such date-time. An instant has to be one of the calendar at universal time.
-/

namespace Feel.Proofs

lemma map_eq_ok_iff {ε α β : Type} {f : α → β} {x : Except ε α} {b : β} :
    x.map f = .ok b ↔ ∃ a, x = .ok a ∧ f a = b := by
  cases x <;> simp [Except.map]

lemma mapError_eq_ok_iff {ε ε' α : Type} {f : ε → ε'} {x : Except ε α} {a : α} :
    x.mapError f = .ok a ↔ x = .ok a := by
  cases x <;> simp [Except.mapError]

lemma mapError_eq_error_iff {ε ε' α : Type} {f : ε → ε'} {x : Except ε α} {e : ε'} :
    x.mapError f = .error e ↔ ∃ fault, x = .error fault ∧ f fault = e := by
  cases x <;> simp [Except.mapError]

/-! ### Positions and seconds -/

lemma seconds_eq (t : LocalDateTime) : t.seconds = t.position / nanosPerSecond := by
  have hclock : t.clock.seconds = t.clock.nanos / nanosPerSecond := rfl
  have hday : (nanosPerDay : ℤ) = secondsPerDay * nanosPerSecond := rfl
  rw [LocalDateTime.seconds, LocalDateTime.position, hclock, hday, secondsPerDay, nanosPerSecond]
  omega

lemma dateTime_seconds_eq (t : DateTime) : t.seconds = t.instant / nanosPerSecond := seconds_eq t.utc

lemma fdiv_nanosPerDay (position : ℤ) :
    position.fdiv nanosPerDay = position / nanosPerSecond / secondsPerDay := by
  have hday : (nanosPerDay : ℤ) = 86400000000000 := rfl
  rw [Int.fdiv_eq_ediv_of_nonneg _ (by rw [hday]; norm_num), hday, nanosPerSecond, secondsPerDay]
  omega

lemma position_of_atPosition? {position : ℤ} {t : LocalDateTime}
    (h : LocalDateTime.atPosition? position = some t) : t.position = position := by
  obtain ⟨d, hd, rfl⟩ := Option.map_eq_some_iff.mp h
  have hday : (nanosPerDay : ℤ) = 86400000000000 := rfl
  have hnumber := dayNumber_of_ofDayNumber? hd
  have hnonneg := Int.emod_nonneg position (by rw [hday]; norm_num : (nanosPerDay : ℤ) ≠ 0)
  have hsum := Int.emod_add_mul_ediv position nanosPerDay
  rw [LocalDateTime.position, Clock.wrap, hnumber, Int.toNat_of_nonneg hnonneg,
    Int.fdiv_eq_ediv_of_nonneg _ (by rw [hday]; norm_num), mul_comm, add_comm]
  exact hsum

/-- The instants of the calendar, in seconds since the start of 1970. -/
def IsInstant (seconds : ℤ) : Prop :=
  yearStart Date.minYear * secondsPerDay ≤ seconds ∧
    seconds < yearStart (Date.maxYear + 1) * secondsPerDay

lemma isSome_atPosition?_iff (position : ℤ) :
    (LocalDateTime.atPosition? position).isSome = true ↔ IsInstant (position / nanosPerSecond) := by
  rw [LocalDateTime.atPosition?, Option.isSome_map, isSome_ofDayNumber?_iff, fdiv_nanosPerDay, IsInstant,
    secondsPerDay]
  omega

lemma isInstant_seconds (t : LocalDateTime) : IsInstant t.seconds := by
  obtain ⟨⟨hmin, hmax⟩, hmonth, hday⟩ := t.date.valid
  obtain ⟨hlow, hhigh⟩ := dayNumberOf_mem_year hmonth hday
  have hfirst := yearStart_mono hmin
  have hlast := yearStart_mono (by omega : t.date.year + 1 ≤ Date.maxYear + 1)
  have hclock := t.clock.lt
  have hseconds : t.clock.seconds = t.clock.nanos / nanosPerSecond := rfl
  unfold IsInstant LocalDateTime.seconds Date.dayNumber
  unfold nanosPerDay secondsPerDay nanosPerSecond at *
  omega

lemma position_injective : Function.Injective LocalDateTime.position := by
  intro a b h
  have ha := a.clock.lt
  have hb := b.clock.lt
  unfold LocalDateTime.position at h
  have hday : a.date.dayNumber = b.date.dayNumber := by
    unfold nanosPerDay secondsPerDay nanosPerSecond at *
    omega
  have hnanos : a.clock.nanos = b.clock.nanos := by
    rw [hday] at h
    omega
  obtain ⟨date, clock⟩ := a
  obtain ⟨date', clock'⟩ := b
  obtain rfl : date = date' := dayNumber_injective hday
  obtain rfl : clock = clock' := by
    cases clock
    cases clock'
    exact (Clock.mk.injEq ..).mpr hnanos
  rfl

lemma atPosition?_position (t : LocalDateTime) : LocalDateTime.atPosition? t.position = some t := by
  have hreached : (LocalDateTime.atPosition? t.position).isSome = true := by
    rw [isSome_atPosition?_iff, ← seconds_eq]
    exact isInstant_seconds t
  obtain ⟨u, hu⟩ := Option.isSome_iff_exists.mp hreached
  rw [hu, position_injective (position_of_atPosition? hu)]

lemma atPosition?_eq_some_iff {position : ℤ} {t : LocalDateTime} :
    LocalDateTime.atPosition? position = some t ↔ t.position = position := by
  constructor
  · exact position_of_atPosition?
  · rintro rfl
    exact atPosition?_position t

lemma exists_position_eq {position : ℤ} (h : IsInstant (position / nanosPerSecond)) :
    ∃ t : LocalDateTime, t.position = position := by
  obtain ⟨t, ht⟩ := Option.isSome_iff_exists.mp ((isSome_atPosition?_iff position).mpr h)
  exact ⟨t, position_of_atPosition? ht⟩

/-- An instant before one of the calendar, of the same local time, is in the calendar too. -/
lemma isInstant_of_shows {t : Timeline} {shown i j : ℤ} (hi : Shows t shown i) (hj : Shows t shown j)
    (hle : i ≤ j) (h : IsInstant j) : IsInstant i := by
  obtain rfl | hlt := hle.eq_or_lt
  · exact h
  · have hdawn := dawn_lt_add_of_shows hi hj hlt
    have hstart : Timeline.dawn = (yearStart Date.minYear + 2) * secondsPerDay := by decide
    rw [hstart] at hdawn
    refine ⟨?_, hlt.trans h.2⟩
    unfold secondsPerDay at hdawn ⊢
    omega

/-! ### What date-times show -/

lemma dateTime_eq {a b : DateTime} (hinstant : a.instant = b.instant) (hoffset : a.offset = b.offset)
    (hzone : a.zone = b.zone) : a = b := by
  obtain ⟨utc, offset, zone⟩ := a
  obtain ⟨utc', offset', zone'⟩ := b
  obtain rfl : utc = utc' := position_injective hinstant
  obtain rfl : offset = offset' := hoffset
  obtain rfl : zone = zone' := hzone
  rfl

/-- What the local clock shows, in seconds since the start of 1970, also beyond the calendar. -/
def shownSeconds (t : DateTime) : ℤ := t.seconds + t.offset.seconds

/-- The local calendar reaches the day that it has to show. -/
def IsShown (t : DateTime) : Prop := IsInstant (shownSeconds t)

lemma shown_eq_ok_iff {t : DateTime} {shown : LocalDateTime} :
    t.shown = .ok shown ↔ shown.position = t.instant + t.offset.nanos := by
  rw [← atPosition?_eq_some_iff, DateTime.shown]
  cases LocalDateTime.atPosition? (t.instant + t.offset.nanos) <;> simp

/-- A clock ahead of universal time by the offset shows what is that much later. -/
lemma shown_of_position_eq {utc shown : LocalDateTime} {offset : Offset} (zone : Option Zone)
    (h : utc.position = shown.position - offset.nanos) : DateTime.shown ⟨utc, offset, zone⟩ = .ok shown := by
  rw [shown_eq_ok_iff, DateTime.instant, h, sub_add_cancel]

lemma isShown_iff {t : DateTime} : IsShown t ↔ ∃ shown, t.shown = .ok shown := by
  have hseconds : shownSeconds t = (t.instant + t.offset.nanos) / nanosPerSecond := by
    rw [shownSeconds, dateTime_seconds_eq, Offset.nanos, nanosPerSecond]
    omega
  simp only [IsShown, hseconds, ← isSome_atPosition?_iff, Option.isSome_iff_exists, shown_eq_ok_iff,
    atPosition?_eq_some_iff]

/-- Beyond the ends of the calendar nothing is shown, and the program stops. -/
lemma not_isShown_iff {t : DateTime} : ¬IsShown t ↔ t.shown = .error .localOutOfRange := by
  rw [isShown_iff, DateTime.shown]
  cases LocalDateTime.atPosition? (t.instant + t.offset.nanos) <;> simp

/-- The calendar's last day at half an hour before midnight, of which clocks in Tokyo show the next morning. -/
def pastLastDay : DateTime where
  utc := ⟨⟨262142, 12, 31, by decide⟩, ⟨84600 * nanosPerSecond, by decide⟩⟩
  offset := Zone.Tokyo.standard
  zone := some ⟨"Asia/Tokyo", Zone.Tokyo.timeline⟩

lemma not_isShown_pastLastDay : ¬IsShown pastLastDay := not_isShown_iff.mpr (by decide +kernel)

/-- A literal names the instant, although the zone has no day for it. -/
lemma parse_pastLastDay : DateTime.parse "+262142-12-31T23:30:00Z@Asia/Tokyo" = .ok pastLastDay := by
  decide +kernel

lemma dateAndTime_pastLastDay :
    Operation.dateAndTime [.string "+262142-12-31T23:30:00Z@Asia/Tokyo"] = .ok (.dateTime pastLastDay) := by
  rw [Operation.dateAndTime, parse_pastLastDay]
  rfl

section Shown

variable {t : DateTime} {shown : LocalDateTime} (h : t.shown = .ok shown)

include h

lemma instant_of_shown : t.instant = shown.position - t.offset.nanos := by
  rw [shown_eq_ok_iff.mp h, add_sub_cancel_right]

lemma seconds_of_shown : shown.seconds = shownSeconds t := by
  rw [shownSeconds, dateTime_seconds_eq, seconds_eq, shown_eq_ok_iff.mp h, Offset.nanos, nanosPerSecond]
  omega

lemma date_of_shown : t.date = .ok shown.date := by
  rw [DateTime.date, h]
  rfl

lemma time_of_shown : t.time = .ok ⟨shown.clock, t.offset⟩ := by
  rw [DateTime.time, h]
  rfl

lemma date_eq_ok : Operation.date [.dateTime t] = .ok (.date shown.date) := by
  rw [Operation.date, date_of_shown h]
  rfl

lemma time_eq_ok : Operation.time [.dateTime t] = .ok (.time ⟨shown.clock, t.offset⟩) := by
  rw [Operation.time, time_of_shown h]
  rfl

end Shown

section NotShown

variable {t : DateTime} (h : ¬IsShown t)

include h

lemma localDate_eq_error : Operation.localDate (.dateTime t) = .error (.panic .localOutOfRange) := by
  rw [Operation.localDate, DateTime.date, not_isShown_iff.mp h]
  rfl

lemma localTime_eq_error : Operation.localTime (.dateTime t) = .error (.panic .localOutOfRange) := by
  rw [Operation.localTime, DateTime.time, not_isShown_iff.mp h]
  rfl

/-- A date-time that shows nothing has no date and no time: both calls stop the program. -/
lemma date_time_of_not_isShown :
    Operation.date [.dateTime t] = .error (.panic .localOutOfRange) ∧
      Operation.time [.dateTime t] = .error (.panic .localOutOfRange) := by
  rw [Operation.date, DateTime.date, Operation.time, DateTime.time, not_isShown_iff.mp h]
  exact ⟨rfl, rfl⟩

end NotShown

lemma exists_atOffset {shown : LocalDateTime} {offset : Offset}
    (h : IsInstant (shown.seconds - offset.seconds)) (zone : Option Zone) :
    ∃ t : DateTime, t.shown = .ok shown ∧ t.offset = offset ∧ t.zone = zone := by
  have hseconds : (shown.position - offset.nanos) / nanosPerSecond = shown.seconds - offset.seconds := by
    rw [seconds_eq, Offset.nanos, nanosPerSecond]
    omega
  obtain ⟨utc, hutc⟩ := exists_position_eq (hseconds ▸ h)
  exact ⟨⟨utc, offset, zone⟩, shown_of_position_eq zone hutc, rfl, rfl⟩

lemma atOffset_eq_ok_iff {shown : LocalDateTime} {offset : Offset} {t : DateTime} :
    DateTime.atOffset shown offset = .ok t ↔ t.shown = .ok shown ∧ t.offset = offset ∧ t.zone = none := by
  constructor
  · intro h
    unfold DateTime.atOffset at h
    split at h
    · rename_i utc hutc
      obtain rfl := Except.ok.inj h
      exact ⟨shown_of_position_eq none (position_of_atPosition? hutc), rfl, rfl⟩
    · exact absurd h (by simp)
  · rintro ⟨hshown, rfl, hzone⟩
    have hutc := atPosition?_position t.utc
    rw [← DateTime.instant, instant_of_shown hshown] at hutc
    rw [DateTime.atOffset, hutc, ← hzone]

/-! ### Instants of zones -/

/-- No earlier instant shows the same local time in the zone. -/
def IsFirst (zone : Zone) (t : DateTime) : Prop :=
  ∀ earlier < t.seconds, ¬ Shows zone.timeline (shownSeconds t) earlier

/-- The clocks of a zone show the local date-time at an instant, in nanoseconds since the start of 1970. -/
def ShowsAt (zone : Zone) (shown : LocalDateTime) (instant : ℤ) : Prop :=
  instant + (zone.offsetAt (instant / nanosPerSecond)).nanos = shown.position

/-- Clocks show a local date-time at an instant if they show its second there and its fraction is that of
the instant. -/
lemma showsAt_iff {zone : Zone} {shown : LocalDateTime} {instant : ℤ} :
    ShowsAt zone shown instant ↔ Shows zone.timeline shown.seconds (instant / nanosPerSecond) ∧
      instant % nanosPerSecond = shown.position % nanosPerSecond := by
  rw [ShowsAt, Shows, Zone.offsetAt, seconds_eq, Offset.nanos]
  unfold nanosPerSecond
  omega

/-- The instant in a second with the fraction of a local date-time. -/
lemma showsAt_of_shows {zone : Zone} {shown : LocalDateTime} {i : ℤ}
    (h : Shows zone.timeline shown.seconds i) :
    ∃ instant : ℤ, instant / nanosPerSecond = i ∧ ShowsAt zone shown instant := by
  have hfraction : (i * nanosPerSecond + shown.position % nanosPerSecond) / nanosPerSecond = i ∧
      (i * nanosPerSecond + shown.position % nanosPerSecond) % nanosPerSecond =
        shown.position % nanosPerSecond := by
    unfold nanosPerSecond
    omega
  refine ⟨i * nanosPerSecond + shown.position % nanosPerSecond, hfraction.1, showsAt_iff.mpr ⟨?_, hfraction.2⟩⟩
  rw [hfraction.1]
  exact h

lemma isFirst_iff {zone : Zone} {t : DateTime} {shown : LocalDateTime} (h : t.shown = .ok shown) :
    IsFirst zone t ↔ ∀ earlier < t.instant, ¬ ShowsAt zone shown earlier := by
  have hposition := shown_eq_ok_iff.mp h
  have hseconds := dateTime_seconds_eq t
  rw [IsFirst, ← seconds_of_shown h]
  constructor
  · intro hfirst earlier hlt hshows
    obtain ⟨hshows, hfraction⟩ := showsAt_iff.mp hshows
    refine hfirst _ ?_ hshows
    unfold Offset.nanos nanosPerSecond at *
    omega
  · intro hfirst earlier hlt hshows
    obtain ⟨instant, hsecond, hshows⟩ := showsAt_of_shows hshows
    refine hfirst instant ?_ hshows
    unfold nanosPerSecond at *
    omega

lemma shows_of_offset_eq {t : DateTime} {zone : Zone} (h : t.offset = zone.offsetAt t.seconds) :
    Shows zone.timeline (shownSeconds t) t.seconds := by
  rw [shownSeconds, h]
  rfl

lemma showsAt_of_offset_eq {t : DateTime} {zone : Zone} {shown : LocalDateTime} (hshown : t.shown = .ok shown)
    (h : t.offset = zone.offsetAt t.seconds) : ShowsAt zone shown t.instant := by
  rw [ShowsAt, ← dateTime_seconds_eq, ← h]
  exact (shown_eq_ok_iff.mp hshown).symm

/-! ### Parts of literals -/

/-- Which date-time the parts of a literal stand for. -/
inductive Resolves : DateTime.Parts → DateTime → Prop
  /-- Without an offset and without a zone the literal is at universal time. -/
  | universal {shown : LocalDateTime} {t : DateTime} (hshown : t.shown = .ok shown) (hoffset : t.offset = .utc)
      (hzone : t.zone = none) : Resolves ⟨shown, none, none⟩ t
  /-- An offset alone is that of the clock which shows the literal's date and time. -/
  | atOffset {shown : LocalDateTime} {t : DateTime} (hshown : t.shown = .ok shown) (hzone : t.zone = none) :
      Resolves ⟨shown, some t.offset, none⟩ t
  /-- A zone beside an offset only says which clocks show the instant. -/
  | moved {shown : LocalDateTime} {offset : Offset} {zone : Zone} {t : DateTime}
      (hinstant : t.instant = shown.position - offset.nanos) (hzone : t.zone = some zone)
      (hoffset : t.offset = zone.offsetAt t.seconds) : Resolves ⟨shown, some offset, some zone⟩ t
  /-- The clocks of a zone alone show the literal's date and time, and do so at no earlier instant. -/
  | inZone {shown : LocalDateTime} {zone : Zone} {t : DateTime} (hshown : t.shown = .ok shown)
      (hzone : t.zone = some zone) (hoffset : t.offset = zone.offsetAt t.seconds)
      (hfirst : ∀ earlier < t.instant, ¬ ShowsAt zone shown earlier) :
      Resolves ⟨shown, none, some zone⟩ t

/-- With an offset the instant is what the literal shows less the offset, whether there is a zone or not. -/
lemma Resolves.instant_eq {parts : DateTime.Parts} {t : DateTime} {offset : Offset} (h : Resolves parts t)
    (hoffset : parts.offset = some offset) : t.instant = parts.shown.position - offset.nanos := by
  cases h with
  | universal => exact absurd hoffset (by simp)
  | atOffset hshown =>
    obtain rfl := Option.some.inj hoffset
    exact instant_of_shown hshown
  | moved hinstant =>
    obtain rfl := Option.some.inj hoffset
    exact hinstant
  | inZone => exact absurd hoffset (by simp)

/-- With an offset the parts stand for a date-time exactly if the calendar reaches the instant. -/
lemma exists_resolves_iff {parts : DateTime.Parts} {offset : Offset} (hoffset : parts.offset = some offset) :
    (∃ t, Resolves parts t) ↔ IsInstant (parts.shown.seconds - offset.seconds) := by
  have hseconds {t : DateTime} (h : t.instant = parts.shown.position - offset.nanos) :
      t.seconds = parts.shown.seconds - offset.seconds := by
    rw [dateTime_seconds_eq, h, seconds_eq, Offset.nanos, nanosPerSecond]
    omega
  constructor
  · rintro ⟨t, h⟩
    rw [← hseconds (h.instant_eq hoffset)]
    exact isInstant_seconds t.utc
  · intro h
    obtain ⟨shown, _, zone⟩ := parts
    obtain rfl := hoffset
    cases zone with
    | none =>
      obtain ⟨t, hshown, rfl, hzone⟩ := exists_atOffset h none
      exact ⟨t, .atOffset hshown hzone⟩
    | some zone =>
      obtain ⟨placed, hshown, rfl, -⟩ := exists_atOffset h none
      exact ⟨placed.moveTo zone, .moved (instant_of_shown hshown) rfl rfl⟩

lemma inZone_eq_ok_iff {shown : LocalDateTime} {zone : Zone} {t : DateTime} :
    DateTime.inZone shown zone = .ok t ↔ Resolves ⟨shown, none, some zone⟩ t := by
  constructor
  · intro h
    unfold DateTime.inZone at h
    split at h
    · rename_i offset hshowing
      split at h
      · rename_i utc hutc
        obtain rfl := Except.ok.inj h
        have hshown := shown_of_position_eq (some zone) (position_of_atPosition? hutc)
        have hseconds : shown.seconds - offset.seconds = DateTime.seconds ⟨utc, offset, some zone⟩ := by
          rw [seconds_of_shown hshown, shownSeconds, add_sub_cancel_right]
        obtain ⟨hfirst, hoffset⟩ := isFirstShowing_of_showing? hshowing
        rw [hseconds] at hfirst hoffset
        refine .inZone hshown rfl hoffset.symm ((isFirst_iff hshown).mp ?_)
        rw [IsFirst, ← seconds_of_shown hshown]
        exact hfirst.2
      · exact absurd h (by simp)
    · exact absurd h (by simp)
  · rintro ⟨⟩
    case inZone hshown hzone hoffset hfirst =>
    have hshowing : zone.timeline.showing? shown.seconds = some t.offset := by
      refine showing?_eq_some_iff.mpr ⟨t.seconds, ⟨?_, ?_⟩, hoffset.symm⟩
      · rw [seconds_of_shown hshown]
        exact shows_of_offset_eq hoffset
      · rw [seconds_of_shown hshown]
        exact (isFirst_iff hshown).mpr hfirst
    have hutc := atPosition?_position t.utc
    rw [← DateTime.instant, instant_of_shown hshown] at hutc
    simp only [DateTime.inZone, hshowing, hutc, ← hzone]

/-- Local date-times are given the first of the calendar's instants at which the zone's clocks show them. -/
lemma exists_inZone_of_shows {shown : LocalDateTime} {zone : Zone} {i : ℤ}
    (h : Shows zone.timeline shown.seconds i) (hi : IsInstant i) :
    ∃ r, DateTime.inZone shown zone = .ok r ∧ r.zone = some zone ∧ r.shown = .ok shown ∧
      IsFirstShowing zone.timeline shown.seconds r.seconds := by
  obtain ⟨j, hle, hfirst⟩ := exists_isFirstShowing h
  have hj : shown.seconds - (zone.offsetAt j).seconds = j := by
    have hshows := hfirst.1
    unfold Shows at hshows
    unfold Zone.offsetAt
    omega
  have hinstant : IsInstant (shown.seconds - (zone.offsetAt j).seconds) := by
    rw [hj]
    exact isInstant_of_shows hfirst.1 h hle hi
  obtain ⟨r, hshown, hoffset, hzone⟩ := exists_atOffset hinstant (some zone)
  obtain rfl : r.seconds = j := by
    rw [← hj, seconds_of_shown hshown, shownSeconds, ← hoffset, add_sub_cancel_right]
  refine ⟨r, inZone_eq_ok_iff.mpr (.inZone hshown hzone hoffset ((isFirst_iff hshown).mp ?_)), hzone, hshown,
    hfirst⟩
  rw [IsFirst, ← seconds_of_shown hshown]
  exact hfirst.2

/-- A zone refuses a local date-time exactly if its clocks show it at no instant of the calendar. -/
lemma inZone_eq_error_iff {shown : LocalDateTime} {zone : Zone} {fault : ArgumentFault} :
    DateTime.inZone shown zone = .error fault ↔
      fault = .skipped shown zone ∧
        ∀ instant : ℤ, IsInstant (instant / nanosPerSecond) → ¬ ShowsAt zone shown instant := by
  have hgiven : (∃ t, DateTime.inZone shown zone = .ok t) ↔
      ∃ instant : ℤ, IsInstant (instant / nanosPerSecond) ∧ ShowsAt zone shown instant := by
    constructor
    · rintro ⟨t, ht⟩
      obtain ⟨⟩ := inZone_eq_ok_iff.mp ht
      case inZone hshown hzone hoffset hfirst =>
      exact ⟨t.instant, dateTime_seconds_eq t ▸ isInstant_seconds t.utc, showsAt_of_offset_eq hshown hoffset⟩
    · rintro ⟨instant, hinstant, hshows⟩
      obtain ⟨t, ht, -⟩ := exists_inZone_of_shows (showsAt_iff.mp hshows).1 hinstant
      exact ⟨t, ht⟩
  have hskipped : ∀ fault, DateTime.inZone shown zone = .error fault → fault = .skipped shown zone := by
    intro fault h
    unfold DateTime.inZone at h
    split at h
    · split at h
      · exact absurd h (by simp)
      · exact (Except.error.inj h).symm
    · exact (Except.error.inj h).symm
  constructor
  · intro h
    refine ⟨hskipped fault h, fun instant hinstant hshows => ?_⟩
    obtain ⟨t, ht⟩ := hgiven.mpr ⟨instant, hinstant, hshows⟩
    rw [h] at ht
    exact absurd ht (by simp)
  · rintro ⟨rfl, hnone⟩
    cases hresult : DateTime.inZone shown zone with
    | ok t =>
      obtain ⟨instant, hinstant, hshows⟩ := hgiven.mp ⟨t, hresult⟩
      exact absurd hshows (hnone instant hinstant)
    | error fault => rw [hskipped fault hresult]

lemma map_moveTo_eq_ok_iff {shown : LocalDateTime} {offset : Offset} {zone : Zone} {t : DateTime} :
    ((DateTime.atOffset shown offset).map fun placed => placed.moveTo zone) = .ok t ↔
      Resolves ⟨shown, some offset, some zone⟩ t := by
  constructor
  · intro h
    cases hplaced : DateTime.atOffset shown offset with
    | error fault =>
      rw [hplaced] at h
      exact absurd h (by simp [Except.map])
    | ok placed =>
      rw [hplaced] at h
      obtain rfl := Except.ok.inj h
      obtain ⟨hshown, rfl, -⟩ := atOffset_eq_ok_iff.mp hplaced
      exact .moved (instant_of_shown hshown) rfl rfl
  · rintro ⟨⟩
    case moved hinstant hzone hoffset =>
    have hplaced : DateTime.atOffset shown offset = .ok ⟨t.utc, offset, none⟩ :=
      atOffset_eq_ok_iff.mpr ⟨shown_of_position_eq none hinstant, rfl, rfl⟩
    rw [hplaced]
    exact congrArg Except.ok (dateTime_eq rfl hoffset.symm hzone.symm)

/-- The parts of a literal are accepted if they stand for a date-time, and give that one. -/
theorem ofParts_eq_ok_iff {parts : DateTime.Parts} {t : DateTime} :
    DateTime.ofParts parts = .ok t ↔ Resolves parts t := by
  obtain ⟨shown, offset, zone⟩ := parts
  match offset, zone with
  | none, none =>
    refine atOffset_eq_ok_iff.trans ⟨fun ⟨hshown, hoffset, hzone⟩ => .universal hshown hoffset hzone, ?_⟩
    rintro ⟨hshown, hoffset, hzone⟩
    exact ⟨hshown, hoffset, hzone⟩
  | some offset, none =>
    refine atOffset_eq_ok_iff.trans ⟨?_, ?_⟩
    · rintro ⟨hshown, rfl, hzone⟩
      exact .atOffset hshown hzone
    · rintro ⟨⟩
      case atOffset hzone hshown => exact ⟨hshown, rfl, hzone⟩
  | none, some zone => exact inZone_eq_ok_iff
  | some offset, some zone => exact map_moveTo_eq_ok_iff

end Feel.Proofs
