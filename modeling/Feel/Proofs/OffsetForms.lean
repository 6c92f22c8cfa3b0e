import Feel.Proofs.DateLiterals
import Feel.Proofs.NullArguments
import Feel.Proofs.TimeTexts

/-!
# Offsets as text and as durations

An offset can be written at the end of a literal, or be given as a duration beside the fields of a time.
Both ways give the same time wherever both accept the offset. A duration may have at most eighteen hours.
A text is only checked for its hours, so that it may have up to fifty-nine minutes more.
-/

namespace Feel.Proofs
open Text

/-- A sign, hours of two digits and the minutes of an hour. -/
structure SignedMinutes where
  negative : Bool
  hours : ℕ
  minutes : ℕ
  hours_lt : hours < 100
  minutes_lt : minutes < 60

namespace SignedMinutes

def seconds (o : SignedMinutes) : ℤ :=
  if o.negative then -((o.hours : ℤ) * 3600 + o.minutes * 60) else (o.hours : ℤ) * 3600 + o.minutes * 60

/-- The duration of the same length and sign. -/
def duration (o : SignedMinutes) : Duration := .nanos (o.seconds * nanosPerSecond)

def sign (o : SignedMinutes) : Char := if o.negative then '-' else '+'

/-- The forms of an offset in a literal: hours and minutes with or without a colon, or hours alone. -/
inductive Writes (o : SignedMinutes) : List Char → Prop
  | colon : Writes o (o.sign :: (Digits.padded 2 o.hours ++ ':' :: Digits.padded 2 o.minutes))
  | plain : Writes o (o.sign :: (Digits.padded 2 o.hours ++ Digits.padded 2 o.minutes))
  | hoursAlone (h : o.minutes = 0) : Writes o (o.sign :: Digits.padded 2 o.hours)

lemma natAbs_seconds (o : SignedMinutes) : o.seconds.natAbs = o.hours * 3600 + o.minutes * 60 := by
  unfold seconds
  split_ifs <;> omega

lemma natAbs_seconds_lt (o : SignedMinutes) (h : o.hours < 24) : o.seconds.natAbs < secondsPerDay := by
  have hminutes := o.minutes_lt
  rw [natAbs_seconds, secondsPerDay]
  omega

/-- The offset, which has to be less than a day. -/
def offset (o : SignedMinutes) (h : o.hours < 24) : Offset := ⟨o.seconds, o.natAbs_seconds_lt h⟩

lemma ofSeconds?_seconds (o : SignedMinutes) (h : o.hours < 24) :
    Offset.ofSeconds? o.seconds = some (o.offset h) :=
  dif_pos (o.offset h).bounded

/-! ### Texts -/

lemma length_padded_two {n : ℕ} (h : n < 100) : (Digits.padded 2 n).length = 2 := length_padded (by decide) h

/-- The hours decide whether digits are read. -/
lemma ofDigits?_padded (o : SignedMinutes) :
    Offset.ofDigits? o.negative (Digits.padded 2 o.hours) (Digits.padded 2 o.minutes) =
      if h : o.hours ≤ 18 then some (o.offset (by omega)) else none := by
  have hminutes := o.minutes_lt
  rw [Offset.ofDigits?, twoDigits?_padded o.hours_lt, twoDigits?_padded (by omega)]
  show (if o.hours ≤ 18 ∧ o.minutes ≤ 59 then Offset.ofSeconds? o.seconds else none) = _
  by_cases hhours : o.hours ≤ 18
  · rw [if_pos ⟨hhours, by omega⟩, dif_pos hhours]
    exact o.ofSeconds?_seconds (by omega)
  · rw [if_neg fun hread => hhours hread.1, dif_neg hhours]

lemma readSigned?_of_digits {negative : Bool} {cs : List Char} (hdigits : AllDigits cs)
    (hlength : cs.length = 4) :
    Offset.readSigned? negative cs = Offset.ofDigits? negative (cs.take 2) (cs.drop 2) := by
  have hcolon : splitOnce (· == ':') cs = (cs, none) :=
    splitOnce_of_forall fun x hx => beq_eq_false_of_isDigit (hdigits x hx) (by decide)
  rw [Offset.readSigned?, hcolon]
  simp only [hlength]
  rfl

lemma readSigned?_of_writes {o : SignedMinutes} {cs : List Char} (h : o.Writes (o.sign :: cs)) :
    Offset.readSigned? o.negative cs = if h : o.hours ≤ 18 then some (o.offset (by omega)) else none := by
  have hhours := allDigits_padded 2 o.hours
  have hlength := length_padded_two o.hours_lt
  have hminutes : o.minutes < 100 := by
    have := o.minutes_lt
    omega
  cases h with
  | colon =>
    rw [Offset.readSigned?, splitOnce_digits hhours (by decide)]
    exact o.ofDigits?_padded
  | plain =>
    rw [readSigned?_of_digits (hhours.append (allDigits_padded 2 o.minutes)) (by
      rw [List.length_append, hlength, length_padded_two hminutes]), List.take_left' hlength,
      List.drop_left' hlength]
    exact o.ofDigits?_padded
  | hoursAlone hzero =>
    have hcolon : splitOnce (· == ':') (Digits.padded 2 o.hours) = (Digits.padded 2 o.hours, none) :=
      splitOnce_of_forall fun x hx => beq_eq_false_of_isDigit (hhours x hx) (by decide)
    have hnone : Digits.padded 2 o.minutes = ['0', '0'] := by
      rw [hzero]
      decide +kernel
    rw [Offset.readSigned?, hcolon]
    simp only [hlength, if_true, ← hnone]
    exact o.ofDigits?_padded

lemma Writes.exists_cons {o : SignedMinutes} {cs : List Char} (h : o.Writes cs) :
    ∃ body, cs = o.sign :: body ∧ body ≠ [] ∧ ∀ x ∈ body, x.isDigit = true ∨ x = ':' := by
  have hne (n : ℕ) : Digits.padded 2 n ≠ [] := (isNumber_iff.mp (isNumber_padded 2 n)).1
  have hmem {n : ℕ} {x : Char} (hx : x ∈ Digits.padded 2 n) : x.isDigit = true ∨ x = ':' :=
    Or.inl (allDigits_padded 2 n x hx)
  cases h with
  | colon =>
    refine ⟨_, rfl, List.append_ne_nil_of_left_ne_nil (hne _) _, fun x hx => ?_⟩
    rw [List.mem_append, List.mem_cons] at hx
    obtain hx | rfl | hx := hx
    · exact hmem hx
    · exact Or.inr rfl
    · exact hmem hx
  | plain =>
    refine ⟨_, rfl, List.append_ne_nil_of_left_ne_nil (hne _) _, fun x hx => ?_⟩
    exact (List.mem_append.mp hx).elim hmem hmem
  | hoursAlone => exact ⟨_, rfl, hne _, fun x => hmem⟩

/-- An offset is read from its text exactly if it has at most eighteen hours besides its minutes. -/
lemma Writes.parse? {o : SignedMinutes} {cs : List Char} (h : o.Writes cs) :
    Offset.parse? cs = if h : o.hours ≤ 18 then some (o.offset (by omega)) else none := by
  obtain ⟨body, rfl, -, -⟩ := h.exists_cons
  have hread := readSigned?_of_writes h
  cases hneg : o.negative with
  | false =>
    rw [hneg] at hread
    rw [sign, hneg]
    exact hread
  | true =>
    rw [hneg] at hread
    rw [sign, hneg]
    exact hread

end SignedMinutes

/-! ### Clocks -/

lemma mem_splitOnce {p : Char → Bool} {cs : List Char} {x : Char} (h : x ∈ cs) :
    x ∈ (splitOnce p cs).1 ∨ p x = true ∨ ∃ after ∈ (splitOnce p cs).2, x ∈ after := by
  obtain ⟨⟨before, after⟩, hcut⟩ : ∃ q, splitOnce p cs = q := ⟨_, rfl⟩
  rw [hcut]
  cases after with
  | none => exact Or.inl (eq_of_splitOnce_none hcut ▸ h)
  | some after =>
    obtain ⟨c, hc, rfl⟩ := eq_append_of_splitOnce hcut
    rw [List.mem_append, List.mem_cons] at h
    obtain h | rfl | h := h
    · exact Or.inl h
    · exact Or.inr (Or.inl hc)
    · exact Or.inr (Or.inr ⟨after, rfl, h⟩)

lemma allDigits_of_twoDigits? {cs : List Char} {n : ℕ} (h : Date.twoDigits? cs = some n) : AllDigits cs := by
  rw [eq_padded_of_twoDigits? h]
  exact allDigits_padded 2 n

lemma allDigits_of_readFraction? {cs : List Char} {n : ℕ} (h : Clock.readFraction? cs = some n) :
    AllDigits cs := by
  unfold Clock.readFraction? at h
  split_ifs at h with hform
  exact (isNumber_iff.mp hform.1).2

/-- Clock texts have digits, colons and a point. -/
lemma mem_of_clock_parse? {cs : List Char} {c : Clock} (h : Clock.parse? cs = some c) {x : Char}
    (hx : x ∈ cs) : x.isDigit = true ∨ x ∈ [':', '.'] := by
  unfold Clock.parse? at h
  obtain ⟨⟨whole, fraction⟩, hwhole⟩ : ∃ q, splitOnce (· == '.') cs = q := ⟨_, rfl⟩
  obtain ⟨⟨hour, rest⟩, hhour⟩ : ∃ q, splitOnce (· == ':') whole = q := ⟨_, rfl⟩
  simp only [hwhole, hhour, Option.bind_eq_bind, Option.bind_eq_some_iff] at h
  obtain ⟨rest, rfl, h⟩ := h
  obtain ⟨⟨minute, second⟩, hminute⟩ : ∃ q, splitOnce (· == ':') rest = q := ⟨_, rfl⟩
  simp only [hminute] at h
  obtain ⟨_, hhours, _, hminutes, h⟩ := h
  have hlast : (∀ s ∈ second, AllDigits s) ∧ ∀ f ∈ fraction, AllDigits f := by
    cases second with
    | none => cases fraction <;> simp_all
    | some second =>
      cases fraction with
      | none =>
        obtain ⟨_, hseconds, -⟩ := Option.bind_eq_some_iff.mp h
        simpa using allDigits_of_twoDigits? hseconds
      | some fraction =>
        obtain ⟨_, hseconds, h⟩ := Option.bind_eq_some_iff.mp h
        obtain ⟨_, hfraction, -⟩ := Option.bind_eq_some_iff.mp h
        simpa using ⟨allDigits_of_twoDigits? hseconds, allDigits_of_readFraction? hfraction⟩
  -- Each character is one at which the text was cut or belongs to one of the digit strings.
  have hcut := mem_splitOnce (p := (· == '.')) hx
  rw [hwhole] at hcut
  obtain hx | hpoint | ⟨f, hf, hx⟩ := hcut
  · have hcut := mem_splitOnce (p := (· == ':')) hx
    rw [hhour] at hcut
    obtain hx | hcolon | ⟨_, ⟨rfl⟩, hx⟩ := hcut
    · exact Or.inl (allDigits_of_twoDigits? hhours x hx)
    · exact Or.inr (by simp [eq_of_beq hcolon])
    · have hcut := mem_splitOnce (p := (· == ':')) hx
      rw [hminute] at hcut
      obtain hx | hcolon | ⟨s, hs, hx⟩ := hcut
      · exact Or.inl (allDigits_of_twoDigits? hminutes x hx)
      · exact Or.inr (by simp [eq_of_beq hcolon])
      · exact Or.inl (hlast.1 s hs x hx)
  · exact Or.inr (by simp [eq_of_beq hpoint])
  · exact Or.inl (hlast.2 f hf x hx)

lemma mem_of_date_parse? {cs : List Char} {d : Date} (h : Date.parse? cs = some d) {x : Char}
    (hx : x ∈ cs) : x.isDigit = true ∨ x ∈ ['-', '+'] := by
  have hmem {x : Char} (hx : x ∈ d.text) : x.isDigit = true ∨ x ∈ ['-', '+'] := by
    simpa using mem_date_text hx
  obtain rfl | ⟨-, rfl⟩ := eq_text_of_date_parse? h
  · exact hmem hx
  · obtain rfl | hx := List.mem_cons.mp hx
    · exact Or.inr (by simp)
    · exact hmem hx

lemma ne_nil_of_clock_parse? {cs : List Char} {c : Clock} (h : Clock.parse? cs = some c) : cs ≠ [] := by
  rintro rfl
  have hnone : Clock.parse? [] = none := rfl
  rw [hnone] at h
  exact absurd h (by simp)

/-! ### Literals -/

section Literals

variable {o : SignedMinutes} {suffix : List Char} (ho : o.Writes suffix) {cs : List Char} {c : Clock}
  (hcs : Clock.parse? cs = some c)

include ho hcs

lemma offset_cut_writes : Offset.cut (cs ++ suffix) = (cs, some suffix) := by
  obtain ⟨body, rfl, hne, hbody⟩ := ho.exists_cons
  have hsign : o.sign = '-' ∨ o.sign = '+' := by
    unfold SignedMinutes.sign
    split_ifs <;> simp
  exact offset_cut_append (ne_nil_of_clock_parse? hcs) hsign hne hbody

lemma mem_append_writes {x : Char} (hx : x ∈ cs ++ suffix) :
    x.isDigit = true ∨ x ∈ ['-', '+', ':', '.'] := by
  obtain hx | hx := List.mem_append.mp hx
  · exact (mem_of_clock_parse? hcs hx).imp_right (List.mem_append_right ['-', '+'])
  · obtain ⟨body, rfl, -, hbody⟩ := ho.exists_cons
    obtain rfl | hx := List.mem_cons.mp hx
    · unfold SignedMinutes.sign
      split_ifs <;> simp
    · exact (hbody x hx).imp_right (by rintro rfl; simp)

/-- A time literal is read exactly if its offset has at most eighteen hours besides its minutes. -/
lemma time_of_text :
    Operation.time [.string (String.ofList (cs ++ suffix))] =
      if h : o.hours ≤ 18 then .ok (.time ⟨c, o.offset (by omega)⟩)
      else .error (.malformed .time (String.ofList (cs ++ suffix))) := by
  have hfree : ¬((cs ++ suffix).any fun c => c == '@' || c == '[') = true := by
    rw [List.any_eq_true]
    rintro ⟨x, hx, hzone⟩
    rw [Bool.or_eq_true, beq_iff_eq, beq_iff_eq] at hzone
    exact hzone.elim (ne_of_isDigit_or_mem (mem_append_writes ho hcs hx) (by decide) (by decide))
      (ne_of_isDigit_or_mem (mem_append_writes ho hcs hx) (by decide) (by decide))
  have hread : OffsetTime.parse? (cs ++ suffix) =
      if h : o.hours ≤ 18 then some ⟨c, o.offset (by omega)⟩ else none := by
    rw [OffsetTime.parse?, if_neg hfree, offset_cut_writes ho hcs]
    simp only [hcs, ho.parse?, Option.bind_eq_bind, Option.bind_some]
    split_ifs <;> rfl
  rw [Operation.time, OffsetTime.parse, String.toList_ofList, hread]
  split_ifs <;> rfl

variable {ds : List Char} {d : Date} (hds : Date.parse? ds = some d)

include hds

lemma readParts?_of_text (zones : List Zone) :
    DateTime.readParts? zones (ds ++ 'T' :: (cs ++ suffix)) =
      if h : o.hours ≤ 18 then some ⟨⟨d, c⟩, some (o.offset (by omega)), none⟩ else none := by
  have hmem {x : Char} (hx : x ∈ ds ++ 'T' :: (cs ++ suffix)) :
      x.isDigit = true ∨ x ∈ ['T', '-', '+', ':', '.'] := by
    rw [List.mem_append, List.mem_cons] at hx
    obtain hx | rfl | hx := hx
    · exact (mem_of_date_parse? hds hx).imp_right fun h => by simp at h ⊢; tauto
    · exact Or.inr (by simp)
    · exact (mem_append_writes ho hcs hx).imp_right (List.mem_cons_of_mem 'T')
  have hzone : DateTime.cutZone (ds ++ 'T' :: (cs ++ suffix)) = (ds ++ 'T' :: (cs ++ suffix), none) :=
    cutZone_eq_self fun x hx => ⟨ne_of_isDigit_or_mem (hmem hx) (by decide) (by decide),
      ne_of_isDigit_or_mem (hmem hx) (by decide) (by decide)⟩
  have hdate : splitOnce (· == 'T') (ds ++ 'T' :: (cs ++ suffix)) = (ds, some (cs ++ suffix)) := by
    refine splitOnce_append (fun x hx => beq_eq_false_iff_ne.mpr ?_) rfl
    exact ne_of_isDigit_or_mem (mem_of_date_parse? hds hx) (by decide) (by decide)
  rw [DateTime.readParts?, hzone]
  simp only [hdate, DateTime.cutClock, offset_cut_writes ho hcs, hds, hcs, ho.parse?, Option.mapM_some,
    Option.mapM_none, Option.bind_eq_bind, Option.bind_some]
  split_ifs <;> rfl

/-- A date-time literal is read under the same condition, and fails else only if the calendar, at universal
time, does not reach it. -/
lemma dateAndTime_of_text [Zones] :
    Operation.dateAndTime [.string (String.ofList (ds ++ 'T' :: (cs ++ suffix)))] =
      if h : o.hours ≤ 18 then
        ((DateTime.atOffset ⟨d, c⟩ (o.offset (by omega))).mapError .badArgument).map .dateTime
      else .error (.malformed .dateTime (String.ofList (ds ++ 'T' :: (cs ++ suffix)))) := by
  rw [Operation.dateAndTime, DateTime.parse, DateTime.parseIn, String.toList_ofList,
    readParts?_of_text ho hcs hds]
  split_ifs <;> rfl

end Literals

/-! ### Durations -/

lemma not_anyNull_of_clockOfFields {hour minute second : Value} {c : Clock}
    (h : Operation.clockOfFields hour minute second = .ok c) (d : Duration) :
    anyNull [hour, minute, second, .duration d] = false := by
  have hsucceeds : Succeeds (Operation.clockOfFields hour minute second) := ⟨c, h⟩
  simp only [Operation.clockOfFields, succeeds_bind] at hsucceeds
  obtain ⟨_, hhour, _, _, _, hminute, _, _, _, hsecond, -⟩ := hsucceeds
  rw [eq_of_toNumber hhour, eq_of_toNumber hminute, eq_of_toNumber hsecond]
  rfl

lemma offsetOfDuration_duration (o : SignedMinutes) :
    Operation.offsetOfDuration o.duration =
      if h : o.seconds.natAbs ≤ 18 * 3600 then
        .ok (o.offset (by rw [o.natAbs_seconds] at h; omega))
      else .error (.badArgument (.offsetTooFar o.duration)) := by
  -- The seconds make whole minutes, so that only the length of the duration counts.
  obtain ⟨n, hn⟩ : (60 : ℤ) ∣ o.seconds := by
    unfold SignedMinutes.seconds
    split_ifs <;> omega
  have hwhole : ¬o.seconds * nanosPerSecond % (60 * nanosPerSecond) ≠ 0 := by
    rw [hn, nanosPerSecond]
    omega
  have hseconds : o.seconds * nanosPerSecond / (nanosPerSecond : ℤ) = o.seconds :=
    Int.mul_ediv_cancel _ (by decide)
  rw [Operation.offsetOfDuration.eq_def, SignedMinutes.duration]
  simp only [if_neg hwhole, hseconds]
  by_cases h : o.seconds.natAbs ≤ 18 * 3600
  · have hhours : o.hours < 24 := by
      rw [o.natAbs_seconds] at h
      omega
    rw [dif_pos h, if_neg (by unfold Offset.maxHour; omega), o.ofSeconds?_seconds hhours]
  · rw [dif_neg h, if_pos (by unfold Offset.maxHour; omega)]

/-- A time is made of fields and a duration exactly if the duration has at most eighteen hours. -/
lemma time_of_fields (o : SignedMinutes) {hour minute second : Value} {c : Clock}
    (h : Operation.clockOfFields hour minute second = .ok c) :
    Operation.time [hour, minute, second, .duration o.duration] =
      if h : o.seconds.natAbs ≤ 18 * 3600 then
        .ok (.time ⟨c, o.offset (by rw [o.natAbs_seconds] at h; omega)⟩)
      else .error (.badArgument (.offsetTooFar o.duration)) := by
  simp only [Operation.time, not_anyNull_of_clockOfFields h, Value.toDuration, offsetOfDuration_duration, h,
    Bind.bind, Except.bind, Bool.false_eq_true, if_false]
  split_ifs <;> rfl

/-! ### Agreement -/

/-- The date-time that shows a date and a time is given, unless the calendar does not reach it. -/
def IsShownOn (d : Date) (t : OffsetTime) (outcome : Except Fault Value) : Prop :=
  if (LocalDateTime.atPosition? (LocalDateTime.position ⟨d, t.clock⟩ - t.offset.nanos)).isSome then
    ∃ dt : DateTime, outcome = .ok (.dateTime dt) ∧ dt.date = .ok d ∧ dt.zone = none ∧
      Operation.time [.dateTime dt] = .ok (.time t)
  else outcome = .error (.badArgument (.notRepresentable ⟨d, t.clock⟩ t.offset))

section Agreement

variable {o : SignedMinutes} {suffix : List Char} (ho : o.Writes suffix)
  {cs : List Char} {c : Clock} (hcs : Clock.parse? cs = some c)
  {ds : List Char} {d : Date} (hds : Date.parse? ds = some d)

include ho hcs hds

lemma isShownOn_dateAndTime [Zones] (h : o.hours ≤ 18) :
    IsShownOn d ⟨c, o.offset (by omega)⟩
      (Operation.dateAndTime [.string (String.ofList (ds ++ 'T' :: (cs ++ suffix)))]) := by
  rw [dateAndTime_of_text ho hcs hds, dif_pos h, DateTime.atOffset, IsShownOn]
  cases hutc : LocalDateTime.atPosition? (LocalDateTime.position ⟨d, c⟩ - (o.offset (by omega)).nanos) with
  | none => rfl
  | some utc =>
    have hshown := shown_of_position_eq none (position_of_atPosition? hutc)
    exact ⟨_, rfl, map_eq_ok_iff.mpr ⟨_, hshown, rfl⟩, rfl, time_eq_ok hshown⟩

variable {hour minute second : Value} (hfields : Operation.clockOfFields hour minute second = .ok c)

include hfields

/-- Up to eighteen hours the same time is given. A text with more hours is refused as the duration is. A
text with eighteen hours and some minutes is read, although the duration is refused. -/
theorem offset_forms_agree_iff [Zones] :
    (o.seconds.natAbs ≤ 18 * 3600 →
      ∃ t : OffsetTime, t.clock = c ∧ t.offset.seconds = o.seconds ∧
        Operation.time [.string (String.ofList (cs ++ suffix))] = .ok (.time t) ∧
        Operation.time [hour, minute, second, .duration o.duration] = .ok (.time t) ∧
        IsShownOn d t (Operation.dateAndTime [.string (String.ofList (ds ++ 'T' :: (cs ++ suffix)))])) ∧
      (o.hours = 18 ∧ 0 < o.minutes →
        ∃ t : OffsetTime, t.clock = c ∧ t.offset.seconds = o.seconds ∧
          Operation.time [.string (String.ofList (cs ++ suffix))] = .ok (.time t) ∧
          Operation.time [hour, minute, second, .duration o.duration] =
            .error (.badArgument (.offsetTooFar o.duration)) ∧
          IsShownOn d t (Operation.dateAndTime [.string (String.ofList (ds ++ 'T' :: (cs ++ suffix)))])) ∧
      (18 < o.hours →
        Operation.time [.string (String.ofList (cs ++ suffix))] =
            .error (.malformed .time (String.ofList (cs ++ suffix))) ∧
          Operation.time [hour, minute, second, .duration o.duration] =
            .error (.badArgument (.offsetTooFar o.duration)) ∧
          Operation.dateAndTime [.string (String.ofList (ds ++ 'T' :: (cs ++ suffix)))] =
            .error (.malformed .dateTime (String.ofList (ds ++ 'T' :: (cs ++ suffix))))) ∧
      ((Succeeds (Operation.time [.string (String.ofList (cs ++ suffix))]) ↔
          Succeeds (Operation.time [hour, minute, second, .duration o.duration])) ↔
        ¬(o.hours = 18 ∧ 0 < o.minutes)) := by
  have hseconds := o.natAbs_seconds
  have hminutes := o.minutes_lt
  have htext := time_of_text ho hcs
  have hbuilt := time_of_fields o hfields
  refine ⟨fun h => ?_, fun ⟨hhours, hpast⟩ => ?_, fun h => ?_, ?_⟩
  · have hhours : o.hours ≤ 18 := by omega
    rw [dif_pos hhours] at htext
    rw [dif_pos h] at hbuilt
    exact ⟨_, rfl, rfl, htext, hbuilt, isShownOn_dateAndTime ho hcs hds hhours⟩
  · -- The minutes count for the duration alone.
    rw [dif_pos hhours.le] at htext
    rw [dif_neg (by omega)] at hbuilt
    exact ⟨_, rfl, rfl, htext, hbuilt, isShownOn_dateAndTime ho hcs hds hhours.le⟩
  · rw [dif_neg (by omega)] at htext hbuilt
    refine ⟨htext, hbuilt, ?_⟩
    rw [dateAndTime_of_text ho hcs hds, dif_neg (by omega)]
  · have hreads : Succeeds (Operation.time [.string (String.ofList (cs ++ suffix))]) ↔ o.hours ≤ 18 := by
      rw [htext]
      split_ifs with h <;> simp [h]
    have hmakes : Succeeds (Operation.time [hour, minute, second, .duration o.duration]) ↔
        o.seconds.natAbs ≤ 18 * 3600 := by
      rw [hbuilt]
      split_ifs with h <;> simp [h]
    rw [hreads, hmakes]
    omega

end Agreement

/-- Half past twelve, eighteen hours behind universal time, on a leap day. -/
theorem offset_forms_agree_limit :
    ∃ t : OffsetTime, t.offset.seconds = -64800 ∧
      Operation.time [.string (String.ofList ("12:30".toList ++ "-18:00".toList))] = .ok (.time t) ∧
      Operation.time [.number (.ofInt 12), .number (.ofInt 30), .number (.ofInt 0),
        .duration (.nanos (-64800000000000))] = .ok (.time t) := by
  let o : SignedMinutes := ⟨true, 18, 0, by decide, by decide⟩
  have hsuffix : "-18:00".toList =
      o.sign :: (Digits.padded 2 o.hours ++ ':' :: Digits.padded 2 o.minutes) := by
    decide +kernel
  have ho : o.Writes "-18:00".toList := hsuffix ▸ SignedMinutes.Writes.colon
  have hseconds : o.seconds = -64800 := by decide +kernel
  have hduration : o.duration = .nanos (-64800000000000) := by decide +kernel
  have hcs : Clock.parse? "12:30".toList = some ⟨45000000000000, by decide⟩ := by decide +kernel
  have hds : Date.parse? "2024-02-29".toList = some ⟨2024, 2, 29, by decide, by decide, by decide⟩ := by
    decide +kernel
  have hfields : Operation.clockOfFields (.number (.ofInt 12)) (.number (.ofInt 30)) (.number (.ofInt 0)) =
      .ok ⟨45000000000000, by decide⟩ := by
    decide +kernel
  obtain ⟨t, -, hoffset, htext, hbuilt, -⟩ := (offset_forms_agree_iff ho hcs hds hfields).1 (by decide +kernel)
  rw [hduration] at hbuilt
  exact ⟨t, hoffset.trans hseconds, htext, hbuilt⟩

/-- The offset of half an hour beyond the limit is read, and the same duration is refused. -/
theorem time_of_text_pastLimit :
    (∃ t : OffsetTime, t.offset.seconds = 66600 ∧
      Operation.time [.string "12:00:00+18:30"] = .ok (.time t)) ∧
    Duration.parse "PT18H30M" = .ok (.nanos 66600000000000) ∧
      Operation.time [.number (.ofInt 12), .number (.ofInt 0), .number (.ofInt 0),
        .duration (.nanos 66600000000000)] = .error (.badArgument (.offsetTooFar (.nanos 66600000000000))) := by
  refine ⟨⟨⟨⟨43200000000000, by decide⟩, ⟨66600, by decide⟩⟩, rfl, ?_⟩, ?_, ?_⟩
  · cbv
  · decide +kernel
  · cbv

end Feel.Proofs
