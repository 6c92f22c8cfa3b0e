import Feel.Proofs.OffsetTexts

/-!
# Times and date-times read back

Literals and fields give times offsets that literals have, and the same holds of date-times without a
zone. So their texts are read back as they were. The offset of a time that is taken out of a date-time
with a zone comes from the zone's timeline. Its text is read back if the offset is one that literals
have, and refused else.
-/

namespace Feel.Proofs
open Text

/-! ### Offsets that are read -/

lemma seconds_of_ofSeconds? {n : ℤ} {o : Offset} (h : Offset.ofSeconds? n = some o) : o.seconds = n := by
  unfold Offset.ofSeconds? at h
  split_ifs at h
  rw [← Option.some.inj h]

lemma hasLiteral_of_ofDigits? {negative : Bool} {hours minutes : List Char} {o : Offset}
    (h : Offset.ofDigits? negative hours minutes = some o) : HasLiteral o := by
  unfold Offset.ofDigits? at h
  simp only [Option.bind_eq_bind, Option.bind_eq_some_iff] at h
  obtain ⟨hour, -, minute, -, h⟩ := h
  obtain ⟨⟨hhour, hminute⟩, h⟩ := Option.ite_none_right_eq_some.mp h
  have hseconds := seconds_of_ofSeconds? h
  unfold Offset.maxHour at hhour
  unfold HasLiteral
  split_ifs at hseconds <;> omega

lemma hasLiteral_of_readSigned? {negative : Bool} {cs : List Char} {o : Offset}
    (h : Offset.readSigned? negative cs = some o) : HasLiteral o := by
  unfold Offset.readSigned? at h
  split at h
  · exact hasLiteral_of_ofDigits? h
  · split_ifs at h
    · exact hasLiteral_of_ofDigits? h
    · exact hasLiteral_of_ofDigits? h

lemma hasLiteral_of_parse? {cs : List Char} {o : Offset} (h : Offset.parse? cs = some o) :
    HasLiteral o := by
  unfold Offset.parse? at h
  split at h
  · rw [← Option.some.inj h]
    exact hasLiteral_utc
  · rw [← Option.some.inj h]
    exact hasLiteral_utc
  · exact hasLiteral_of_readSigned? h
  · exact hasLiteral_of_readSigned? h
  · exact absurd h (by simp)

lemma yields_offsetOfDuration (d : Duration) : Yields HasLiteral (Operation.offsetOfDuration d) := by
  intro o h
  unfold Operation.offsetOfDuration at h
  split at h
  · exact absurd h (by simp)
  · split_ifs at h with hminutes hfar
    split at h
    · rename_i n _ offset hoffset
      obtain rfl := Except.ok.inj h
      have hseconds := seconds_of_ofSeconds? hoffset
      unfold nanosPerSecond at *
      unfold Offset.maxHour at hfar
      unfold HasLiteral
      omega
    · exact absurd h (by simp)

/-! ### Times -/

/-- Times of literals and times of given fields. -/
inductive IsGiven (t : OffsetTime) : Prop
  | literal {s : String} (h : OffsetTime.parse s = .ok t) : IsGiven t
  | fields {hour minute second : Value} (h : Operation.time [hour, minute, second] = .ok (.time t)) :
      IsGiven t
  | fieldsAt {hour minute second offset : Value}
      (h : Operation.time [hour, minute, second, offset] = .ok (.time t)) : IsGiven t

lemma hasLiteral_of_offsetTime_parse? {cs : List Char} {t : OffsetTime}
    (h : OffsetTime.parse? cs = some t) : HasLiteral t.offset := by
  unfold OffsetTime.parse? at h
  split_ifs at h
  · exact absurd h (by simp)
  · simp only [Option.bind_eq_bind, Option.bind_eq_some_iff] at h
    obtain ⟨clock, -, h⟩ := h
    split at h
    · rw [← Option.some.inj h]
      exact hasLiteral_utc
    · obtain ⟨offset, hoffset, h⟩ := Option.bind_eq_some_iff.mp h
      rw [← Option.some.inj h]
      exact hasLiteral_of_parse? hoffset

lemma yields_offsetTime_parse (s : String) :
    Yields (fun t => HasLiteral t.offset) (OffsetTime.parse s) := by
  unfold OffsetTime.parse
  split
  · exact yields_ok.mpr (hasLiteral_of_offsetTime_parse? (by assumption))
  · exact yields_error _

lemma IsGiven.hasLiteral {t : OffsetTime} (h : IsGiven t) : HasLiteral t.offset := by
  cases h with
  | literal h => exact yields_offsetTime_parse _ t h
  | @fields hour minute second h =>
    have hyields : Yields (fun v => ∀ t, v = .time t → HasLiteral t.offset)
        (Operation.time [hour, minute, second]) := by
      simp [Operation.time, hasLiteral_utc]
    exact hyields _ h t rfl
  | @fieldsAt hour minute second offset h =>
    have hyields : Yields (fun v => ∀ t, v = .time t → HasLiteral t.offset)
        (Operation.time [hour, minute, second, offset]) := by
      simp only [Operation.time, yields_ite, yields_bind, yields_pure]
      refine ⟨fun _ t ht => Value.noConfusion ht, fun _ d _ o ho clock _ t ht => ?_⟩
      rw [← Value.time.inj ht]
      exact yields_offsetOfDuration d o ho
    exact hyields _ h t rfl

/-! ### Date-times without a zone -/

lemma hasLiteral_of_readParts? {zones : List Zone} {cs : List Char} {parts : DateTime.Parts}
    (h : DateTime.readParts? zones cs = some parts) : ∀ o ∈ parts.offset, HasLiteral o := by
  unfold DateTime.readParts? at h
  simp only [Option.bind_eq_bind, Option.bind_eq_some_iff] at h
  obtain ⟨_, _, _, _, _, _, offset, hoffset, hparts⟩ := h
  intro o ho
  rw [← Option.some.inj hparts] at ho
  obtain rfl := Option.mem_def.mp ho
  cases hcut : (DateTime.cutClock (splitOnce (· == 'T') (DateTime.cutZone cs).1).2).2 with
  | none => simp [hcut] at hoffset
  | some text =>
    rw [hcut] at hoffset
    obtain ⟨read, hread, heq⟩ := Option.map_eq_some_iff.mp hoffset
    obtain rfl := Option.some.inj heq
    exact hasLiteral_of_parse? hread

/-- A date-time without a zone has an offset that literals have, and shows a local time. -/
structure IsPlaced (t : DateTime) : Prop where
  hasLiteral : HasLiteral t.offset
  isShown : IsShown t

lemma isPlaced_of_atUtc {shown : LocalDateTime} {t : DateTime} (h : DateTime.atUtc shown = .ok t) :
    IsPlaced t := by
  obtain ⟨hshown, hoffset, -⟩ := atOffset_eq_ok_iff.mp h
  exact ⟨hoffset ▸ hasLiteral_utc, isShown_iff.mpr ⟨shown, hshown⟩⟩

lemma isPlaced_of_parseIn {zones : List Zone} {literal : String} {t : DateTime}
    (h : DateTime.parseIn zones literal = .ok t) (hzone : t.zone = none) : IsPlaced t := by
  obtain ⟨parts, hparts, hmade⟩ := parseIn_eq_ok h
  have hliteral := hasLiteral_of_readParts? hparts
  cases ofParts_eq_ok_iff.mp hmade with
  | universal hshown hoffset => exact ⟨hoffset ▸ hasLiteral_utc, isShown_iff.mpr ⟨_, hshown⟩⟩
  | atOffset hshown => exact ⟨hliteral _ rfl, isShown_iff.mpr ⟨_, hshown⟩⟩
  | moved _ hz => exact absurd (hz.symm.trans hzone) (by simp)
  | inZone _ hz => exact absurd (hz.symm.trans hzone) (by simp)

section Produced

variable [Zones] {t : DateTime}

/-- Date-times come from literals, or from what a calendar and a clock show at universal time. -/
lemma Produced.exists_of_dateTime (h : Produced (.dateTime t)) :
    (∃ literal, DateTime.parse literal = .ok t) ∨ ∃ shown, DateTime.atUtc shown = .ok t := by
  refine h.forall_part (P := fun v => ∀ t, v = .dateTime t →
    (∃ literal, DateTime.parse literal = .ok t) ∨ ∃ shown, DateTime.atUtc shown = .ok t)
    ?_ ?_ _ .self t rfl
  · rintro v hv t rfl
    exact hv.elim
  · rintro args v - hv t rfl
    cases hv with
    | dateTimeOfText h => exact Or.inl ⟨_, h⟩
    | dateTimeAtUtc h => exact Or.inr ⟨_, h⟩

lemma produced_of_parse {literal : String} (h : DateTime.parse literal = .ok t) :
    Produced (.dateTime t) := by
  have hrun : Builtin.dateAndTime.run [.string literal] = .ok (.dateTime t) := by
    show (DateTime.parse literal).map Value.dateTime = .ok (.dateTime t)
    rw [h]
    rfl
  exact produced_of_run_string hrun

lemma Produced.isPlaced (h : Produced (.dateTime t)) (hzone : t.zone = none) : IsPlaced t := by
  obtain ⟨literal, h⟩ | ⟨shown, h⟩ := h.exists_of_dateTime
  · exact isPlaced_of_parseIn h hzone
  · exact isPlaced_of_atUtc h

end Produced

/-! ### Reading back -/

lemma string_time (t : OffsetTime) : Operation.string [.time t] = .ok (.string (String.ofList t.text)) := by
  have htext : (Value.time t).text = .ok (String.ofList t.text) := by
    show (Value.time t).display = .ok (String.ofList t.text)
    rw [Value.display]
  exact Operation.string_of_text htext

/-- The text of a time is read back if literals can give the time's offset, and refused else. -/
lemma time_string_text (t : OffsetTime) :
    Operation.time [.string (String.ofList t.text)] =
      if HasLiteral t.offset then .ok (.time t)
      else .error (.malformed .time (String.ofList t.text)) := by
  rw [Operation.time, OffsetTime.parse, String.toList_ofList, offsetTime_parse?_text]
  split_ifs <;> rfl

lemma IsPlaced.dateAndTime_text [Zones] {t : DateTime} (h : IsPlaced t) (hzone : t.zone = none) :
    ∃ s, Operation.string [.dateTime t] = .ok (.string s) ∧
      Operation.dateAndTime [.string s] = .ok (.dateTime t) := by
  obtain ⟨shown, hshown⟩ := isShown_iff.mp h.isShown
  have htext := dateTime_text_of_zone_none hshown hzone
  refine ⟨String.ofList (plainText shown t.offset), ?_, ?_⟩
  · rw [string_dateTime, htext, String.toList_ofList]
  · have hread : DateTime.readParts? Zones.known (String.ofList (plainText shown t.offset)).toList =
        some ⟨shown, some t.offset, none⟩ := by
      rw [String.toList_ofList, readParts?_plainText, if_pos h.hasLiteral]
    have hmade : DateTime.ofParts ⟨shown, some t.offset, none⟩ = .ok t :=
      ofParts_eq_ok_iff.mpr (.atOffset hshown hzone)
    rw [Operation.dateAndTime, DateTime.parse, parseIn_of_readParts? hread, hmade]
    rfl

/-- Times of literals or fields and date-times without a zone are read back from their texts as they
were, with all they show and the same offset. -/
theorem read_text_eq_self [Zones] :
    (∀ t, IsGiven t → ∃ s, Operation.string [.time t] = .ok (.string s) ∧
        Operation.time [.string s] = .ok (.time t)) ∧
      ∀ t, Produced (.dateTime t) → t.zone = none →
        ∃ s, Operation.string [.dateTime t] = .ok (.string s) ∧
          Operation.dateAndTime [.string s] = .ok (.dateTime t) := by
  constructor
  · intro t ht
    refine ⟨_, string_time t, ?_⟩
    rw [time_string_text, if_pos ht.hasLiteral]
  · intro t ht hzone
    exact (ht.isPlaced hzone).dateAndTime_text hzone

/-- One nanosecond before midnight, at an offset west of universal time. -/
def lastInstant : OffsetTime := ⟨⟨86399999999999, by decide⟩, { seconds := -19800 }⟩

/-- The same clock on a day before the common era, of which it is the next morning at universal time. -/
def lastInstantOfIdes : DateTime where
  utc := ⟨⟨-44, 3, 16, by decide⟩, ⟨19799999999999, by decide⟩⟩
  offset := lastInstant.offset
  zone := none

theorem read_text_eq_self_lastInstant :
    IsGiven lastInstant ∧
      (∃ s, Operation.string [.time lastInstant] = .ok (.string s) ∧
        Operation.time [.string s] = .ok (.time lastInstant)) ∧
      Produced (.dateTime lastInstantOfIdes) ∧ lastInstantOfIdes.zone = none ∧
      ∃ s, Operation.string [.dateTime lastInstantOfIdes] = .ok (.string s) ∧
        Operation.dateAndTime [.string s] = .ok (.dateTime lastInstantOfIdes) := by
  have htime : OffsetTime.parse "23:59:59.999999999-05:30" = .ok lastInstant := by cbv
  have hread : DateTime.parse "-0044-03-15T23:59:59.999999999-05:30" = .ok lastInstantOfIdes := by
    decide +kernel
  have hproduced : Produced (.dateTime lastInstantOfIdes) := produced_of_parse hread
  exact ⟨.literal htime, read_text_eq_self.1 _ (.literal htime), hproduced, rfl,
    read_text_eq_self.2 _ hproduced rfl⟩

/-! ### Times taken out of a zone -/

lemma offsetFrom_mem (current : Offset) (instant : ℤ) (changes : List (ℤ × Offset)) :
    Timeline.offsetFrom current instant changes ∈ current :: changes.map Prod.snd := by
  induction changes generalizing current with
  | nil => exact List.mem_singleton.mpr rfl
  | cons change later ih =>
    rw [Timeline.offsetFrom]
    split_ifs
    · exact List.mem_cons_self
    · exact List.mem_cons_of_mem current (ih change.2)

/-- The offsets of the known zones would be in the range of literals if they were whole minutes. -/
lemma natAbs_offsetAt_lt {zone : Zone} (h : zone ∈ Zone.all) (instant : ℤ) :
    (zone.offsetAt instant).seconds.natAbs < 19 * 3600 := by
  have hall : ∀ zone ∈ Zone.all, ∀ o ∈ zone.timeline.initial :: zone.timeline.changes.map Prod.snd,
      o.seconds.natAbs < 19 * 3600 := by
    decide +kernel
  exact hall zone h _ (offsetFrom_mem _ _ _)

lemma offset_eq_offsetAt {zones : List Zone} {dt : DateTime} {zone : Zone} {literal : String}
    (h : DateTime.parseIn zones literal = .ok dt) (hzone : dt.zone = some zone) :
    dt.offset = zone.offsetAt dt.seconds := by
  obtain ⟨parts, hparts, hmade⟩ := parseIn_eq_ok h
  exact (ofParts_isZoned (readParts?_zone hparts) hmade hzone).1.offset_eq

lemma Produced.exists_parse [Zones] {dt : DateTime} {zone : Zone} (h : Produced (.dateTime dt))
    (hzone : dt.zone = some zone) : ∃ literal, DateTime.parseIn Zones.known literal = .ok dt := by
  obtain ⟨literal, h⟩ | ⟨shown, h⟩ := h.exists_of_dateTime
  · exact ⟨literal, h⟩
  · obtain ⟨-, -, hnone⟩ := atOffset_eq_ok_iff.mp h
    exact absurd (hnone.symm.trans hzone) (by simp)

/-- The time taken out of a date-time with a zone that shows something has the offset of the zone at that
instant. Its text is read back if literals can give that offset, and refused else. The offsets of known
zones are too fine for literals where they are not whole minutes, and in no other case. -/
theorem time_of_time_text [Zones] {zones : List Zone} {dt : DateTime} {zone : Zone} {shown : LocalDateTime}
    (h : (∃ literal, DateTime.parseIn zones literal = .ok dt) ∨ Produced (.dateTime dt))
    (hzone : dt.zone = some zone) (hshown : dt.shown = .ok shown) :
    ∃ t s, Operation.time [.dateTime dt] = .ok (.time t) ∧
      Operation.string [.time t] = .ok (.string s) ∧
      t.clock = shown.clock ∧ t.offset = zone.offsetAt dt.seconds ∧
      Operation.time [.string s] =
        (if HasLiteral t.offset then .ok (.time t) else .error (.malformed .time s)) ∧
      (zone ∈ Zone.all → (HasLiteral t.offset ↔ t.offset.seconds % 60 = 0)) := by
  have hoffset : dt.offset = zone.offsetAt dt.seconds := by
    obtain ⟨literal, h⟩ | h := h
    · exact offset_eq_offsetAt h hzone
    · obtain ⟨literal, h⟩ := h.exists_parse hzone
      exact offset_eq_offsetAt h hzone
  have htime : Operation.time [.dateTime dt] = .ok (.time ⟨shown.clock, dt.offset⟩) := time_eq_ok hshown
  refine ⟨_, _, htime, string_time _, rfl, hoffset, time_string_text _, fun hknown => ?_⟩
  have hlt : dt.offset.seconds.natAbs < 19 * 3600 := by
    rw [hoffset]
    exact natAbs_offsetAt_lt hknown _
  exact and_iff_left hlt

theorem time_of_time_text_paris :
    DateTime.parseIn Zone.all "2024-10-27T02:30:00+01:00@Europe/Paris" = .ok afterSetBack ∧
      afterSetBack.zone = some paris ∧ afterSetBack.shown = .ok nightInParis ∧ paris ∈ Zone.all ∧
      ∃ t s, Operation.time [.dateTime afterSetBack] = .ok (.time t) ∧
        Operation.string [.time t] = .ok (.string s) ∧ Operation.time [.string s] = .ok (.time t) := by
  have hread : DateTime.parseIn Zone.all "2024-10-27T02:30:00+01:00@Europe/Paris" = .ok afterSetBack := by
    decide +kernel
  have hzone : afterSetBack.zone = some paris := rfl
  have hshown : afterSetBack.shown = .ok nightInParis := by decide +kernel
  have hknown : paris ∈ Zone.all := by decide +kernel
  obtain ⟨t, s, htime, hstring, -, hoffset, hback, -⟩ := time_of_time_text (Or.inl ⟨_, hread⟩) hzone hshown
  refine ⟨hread, hzone, hshown, hknown, t, s, htime, hstring, ?_⟩
  have hliteral : HasLiteral t.offset := by
    rw [hoffset]
    decide +kernel
  rw [hback, if_pos hliteral]

/-- A midnight in Paris before the first change of its clocks, in local mean time. -/
def meanMidnightInParis : DateTime where
  utc := ⟨⟨1849, 12, 31, by decide⟩, ⟨85839 * nanosPerSecond, by decide⟩⟩
  offset := Zone.Paris.mean
  zone := some paris

/-- The offset of local mean time has seconds, so that the text of the time is refused. -/
theorem time_of_time_text_meanTime :
    DateTime.parse "1850-01-01T00:00:00@Europe/Paris" = .ok meanMidnightInParis ∧
      meanMidnightInParis.zone = some paris ∧
      Operation.time [.dateTime meanMidnightInParis] = .ok (.time ⟨.midnight, Zone.Paris.mean⟩) ∧
      Operation.string [.time ⟨.midnight, Zone.Paris.mean⟩] = .ok (.string "00:00:00+00:09:21") ∧
      Operation.time [.string "00:00:00+00:09:21"] =
        .error (.malformed .time "00:00:00+00:09:21") := by
  have hread : DateTime.parse "1850-01-01T00:00:00@Europe/Paris" = .ok meanMidnightInParis := by
    decide +kernel
  have hshown : meanMidnightInParis.shown = .ok (.startOf ⟨1850, 1, 1, by decide⟩) := by decide +kernel
  have htext : String.ofList (OffsetTime.text ⟨.midnight, Zone.Paris.mean⟩) = "00:00:00+00:09:21" := by
    decide +kernel
  have hstring := string_time ⟨.midnight, Zone.Paris.mean⟩
  have hback := time_string_text ⟨.midnight, Zone.Paris.mean⟩
  rw [if_neg (by decide)] at hback
  rw [htext] at hstring hback
  exact ⟨hread, rfl, time_eq_ok hshown, hstring, hback⟩

end Feel.Proofs
