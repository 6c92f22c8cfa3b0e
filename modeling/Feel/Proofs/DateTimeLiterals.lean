import Feel.Proofs.OffsetForms

/-!
# Date-time literals

A literal has a date, perhaps the letter `T` with a clock's text behind it, perhaps an offset behind that,
and perhaps a zone's name at the end, after an at sign or in brackets. If there is an offset, it settles
the instant, and a zone only shows that instant. Else the zone's clocks settle it, by the first instant at
which they show the literal's date and time, or universal time.
-/

namespace Feel.Proofs
open Text

/-- What stands behind the date gives the time of day and perhaps an offset. Nothing stands for midnight. -/
inductive ClockForm : List Char → Clock → Option Offset → Prop
  | midnight : ClockForm [] .midnight none
  | plain {cs : List Char} {c : Clock} (hc : Clock.parse? cs = some c) : ClockForm ('T' :: cs) c none
  | offset {cs os : List Char} {c : Clock} {o : Offset} (hc : Clock.parse? cs = some c)
      (ho : Offset.parse? os = some o) : ClockForm ('T' :: (cs ++ os)) c (some o)

/-- What stands at the end names one of the zones, or none. -/
inductive ZoneForm (zones : List Zone) : List Char → Option Zone → Prop
  | unnamed : ZoneForm zones [] none
  | sign {name : List Char} {zone : Zone} (h : Zone.ofName? zones (String.ofList name) = some zone) :
      ZoneForm zones ('@' :: name) (some zone)
  | brackets {name : List Char} {zone : Zone} (hsign : '@' ∉ name)
      (h : Zone.ofName? zones (String.ofList name) = some zone) :
      ZoneForm zones ('[' :: (name ++ [']'])) (some zone)

/-- The text is a literal with the given parts. -/
inductive LiteralForm (zones : List Zone) : List Char → DateTime.Parts → Prop
  | mk {ds cs zs : List Char} {d : Date} {c : Clock} {o : Option Offset} {z : Option Zone}
      (hd : Date.parse? ds = some d) (hc : ClockForm cs c o) (hz : ZoneForm zones zs z) :
      LiteralForm zones (ds ++ cs ++ zs) ⟨⟨d, c⟩, o, z⟩

/-! ### Offsets -/

lemma exists_of_ofDigits? {negative : Bool} {hours minutes : List Char} {o : Offset}
    (h : Offset.ofDigits? negative hours minutes = some o) :
    ∃ m : SignedMinutes, m.negative = negative ∧ hours = Digits.padded 2 m.hours ∧
      minutes = Digits.padded 2 m.minutes := by
  unfold Offset.ofDigits? at h
  simp only [Option.bind_eq_bind, Option.bind_eq_some_iff] at h
  obtain ⟨hour, hhour, minute, hminute, h⟩ := h
  obtain ⟨⟨hle, hlt⟩, -⟩ := Option.ite_none_right_eq_some.mp h
  unfold Offset.maxHour at hle
  exact ⟨⟨negative, hour, minute, by omega, by omega⟩, rfl, eq_padded_of_twoDigits? hhour,
    eq_padded_of_twoDigits? hminute⟩

/-- After a sign an offset is read only from one of its forms. -/
lemma writes_of_readSigned? {negative : Bool} {cs : List Char} {o : Offset}
    (h : Offset.readSigned? negative cs = some o) :
    ∃ m : SignedMinutes, m.negative = negative ∧ m.Writes (m.sign :: cs) := by
  unfold Offset.readSigned? at h
  split at h
  · rename_i hours minutes hcut
    obtain ⟨c, hc, rfl⟩ := eq_append_of_splitOnce hcut
    obtain rfl := eq_of_beq hc
    obtain ⟨m, hneg, rfl, rfl⟩ := exists_of_ofDigits? h
    exact ⟨m, hneg, .colon⟩
  · rename_i digits hcut
    obtain rfl := eq_of_splitOnce_none hcut
    split_ifs at h
    · obtain ⟨m, hneg, rfl, hminutes⟩ := exists_of_ofDigits? h
      refine ⟨m, hneg, .hoursAlone ?_⟩
      rw [← toNat_padded 2 m.minutes, ← hminutes]
      decide
    · obtain ⟨m, hneg, hhours, hminutes⟩ := exists_of_ofDigits? h
      refine ⟨m, hneg, ?_⟩
      rw [← List.take_append_drop 2 cs, hhours, hminutes]
      exact .plain

/-- An offset is read from the letter `Z`, of either case, or from one of its forms. -/
lemma writes_of_offset_parse? {os : List Char} {o : Offset} (h : Offset.parse? os = some o) :
    os = ['Z'] ∨ os = ['z'] ∨ ∃ m : SignedMinutes, m.Writes os := by
  unfold Offset.parse? at h
  split at h
  · exact Or.inl rfl
  · exact Or.inr (Or.inl rfl)
  · obtain ⟨m, hneg, hwrites⟩ := writes_of_readSigned? h
    rw [SignedMinutes.sign, hneg] at hwrites
    exact Or.inr (Or.inr ⟨m, hwrites⟩)
  · obtain ⟨m, hneg, hwrites⟩ := writes_of_readSigned? h
    rw [SignedMinutes.sign, hneg] at hwrites
    exact Or.inr (Or.inr ⟨m, hwrites⟩)
  · exact absurd h (by simp)

lemma mem_of_offset_parse? {os : List Char} {o : Offset} (h : Offset.parse? os = some o) {x : Char}
    (hx : x ∈ os) : x.isDigit = true ∨ x ∈ ['Z', 'z', '-', '+', ':'] := by
  obtain rfl | rfl | ⟨m, hwrites⟩ := writes_of_offset_parse? h
  · simp_all
  · simp_all
  · obtain ⟨body, rfl, -, hbody⟩ := hwrites.exists_cons
    obtain rfl | hx := List.mem_cons.mp hx
    · unfold SignedMinutes.sign
      split_ifs <;> simp
    · exact (hbody x hx).imp_right (by rintro rfl; simp)

/-- A clock's text and an offset's text behind it come apart again. -/
lemma offset_cut_of_parse? {cs os : List Char} {c : Clock} {o : Offset} (hc : Clock.parse? cs = some c)
    (ho : Offset.parse? os = some o) :
    ∃ os', Offset.cut (cs ++ os) = (cs, some os') ∧ Offset.parse? os' = some o := by
  obtain rfl | rfl | ⟨m, hwrites⟩ := writes_of_offset_parse? ho
  · refine ⟨['Z'], ?_, ho⟩
    rw [Offset.cut, List.getLast?_concat]
    simp only [List.dropLast_concat]
  · refine ⟨['Z'], ?_, ho⟩
    rw [Offset.cut, List.getLast?_concat]
    simp only [List.dropLast_concat]
  · exact ⟨os, offset_cut_writes hwrites hc, ho⟩

lemma offset_cut_clock {cs : List Char} {c : Clock} (hc : Clock.parse? cs = some c) :
    Offset.cut cs = (cs, none) := by
  refine offset_cut_eq_self fun x hx => ?_
  have hmem := mem_of_clock_parse? hc hx
  exact ⟨ne_of_isDigit_or_mem hmem (by decide) (by decide),
    ne_of_isDigit_or_mem hmem (by decide) (by decide),
    ne_of_isDigit_or_mem hmem (by decide) (by decide),
    ne_of_isDigit_or_mem hmem (by decide) (by decide)⟩

lemma eq_append_of_cutAtSign? {cs front os : List Char} (h : Offset.cutAtSign? cs = some (front, os)) :
    cs = front ++ os := by
  unfold Offset.cutAtSign? at h
  obtain ⟨-, h⟩ := Option.ite_none_left_eq_some.mp h
  obtain ⟨rfl, rfl⟩ := Prod.mk.inj (Option.some.inj h)
  exact (List.prefix_iff_eq_append.mp (List.take_prefix _ _)).symm

lemma eq_append_of_offset_cut {cs front os : List Char} (h : Offset.cut cs = (front, some os)) :
    cs = front ++ os ∨ cs = front ++ ['z'] ∧ os = ['Z'] := by
  unfold Offset.cut at h
  split at h
  · rename_i hlast
    obtain ⟨rfl, hos⟩ := Prod.mk.inj h
    obtain rfl := Option.some.inj hos
    exact Or.inl (List.dropLast_append_getLast? _ hlast).symm
  · rename_i hlast
    obtain ⟨rfl, hos⟩ := Prod.mk.inj h
    obtain rfl := Option.some.inj hos
    exact Or.inr ⟨(List.dropLast_append_getLast? _ hlast).symm, rfl⟩
  · split at h
    · rename_i hcut
      obtain ⟨rfl, hos⟩ := Prod.mk.inj h
      obtain rfl := Option.some.inj hos
      exact Or.inl (eq_append_of_cutAtSign? hcut)
    · exact absurd (Prod.mk.inj h).2 (by simp)

lemma eq_of_offset_cut_none {cs front : List Char} (h : Offset.cut cs = (front, none)) : front = cs := by
  unfold Offset.cut at h
  split at h
  · exact absurd (Prod.mk.inj h).2 (by simp)
  · exact absurd (Prod.mk.inj h).2 (by simp)
  · split at h
    · exact absurd (Prod.mk.inj h).2 (by simp)
    · exact (Prod.mk.inj h).1.symm

/-! ### Clocks -/

lemma ClockForm.mem {cs : List Char} {c : Clock} {o : Option Offset} (h : ClockForm cs c o) {x : Char}
    (hx : x ∈ cs) : x.isDigit = true ∨ x ∈ ['T', '.', 'Z', 'z', '-', '+', ':'] := by
  have hclock {ds : List Char} {d : Clock} (hd : Clock.parse? ds = some d) (hx : x ∈ ds) :
      x.isDigit = true ∨ x ∈ ['T', '.', 'Z', 'z', '-', '+', ':'] :=
    (mem_of_clock_parse? hd hx).imp_right (by simp; tauto)
  cases h with
  | midnight => exact absurd hx List.not_mem_nil
  | plain hc =>
    obtain rfl | hx := List.mem_cons.mp hx
    · simp
    · exact hclock hc hx
  | offset hc ho =>
    rw [List.mem_cons, List.mem_append] at hx
    obtain rfl | hx | hx := hx
    · simp
    · exact hclock hc hx
    · exact (mem_of_offset_parse? ho hx).imp_right fun h => by simp at h ⊢; tauto

/-- Behind a date the time of day and the offset are found. -/
lemma ClockForm.cut {ds cs : List Char} {c : Clock} {o : Option Offset} (h : ClockForm cs c o)
    (hds : ∀ x ∈ ds, (x == 'T') = false) :
    ∃ rest clock os, splitOnce (· == 'T') (ds ++ cs) = (ds, rest) ∧ DateTime.cutClock rest = (clock, os) ∧
      Clock.parse? clock = some c ∧ os.mapM Offset.parse? = some o := by
  cases h with
  | midnight =>
    refine ⟨none, Clock.midnight.text, none, ?_, rfl, clock_parse?_text _, rfl⟩
    rw [List.append_nil]
    exact splitOnce_of_forall hds
  | @plain cs c hc => exact ⟨some cs, cs, none, splitOnce_append hds rfl, offset_cut_clock hc, hc, rfl⟩
  | @offset cs os c o hc ho =>
    obtain ⟨os', hcut, ho'⟩ := offset_cut_of_parse? hc ho
    refine ⟨some (cs ++ os), cs, some os', splitOnce_append hds rfl, hcut, hc, ?_⟩
    rw [Option.mapM_some, ho']
    rfl

lemma exists_clockForm {body ds clock : List Char} {rest os : Option (List Char)} {c : Clock}
    {o : Option Offset} (hdate : splitOnce (· == 'T') body = (ds, rest))
    (hcut : DateTime.cutClock rest = (clock, os)) (hc : Clock.parse? clock = some c)
    (ho : os.mapM Offset.parse? = some o) : ∃ cs, body = ds ++ cs ∧ ClockForm cs c o := by
  cases rest with
  | none =>
    obtain ⟨rfl, rfl⟩ := Prod.mk.inj hcut
    obtain rfl := Option.some.inj ((clock_parse?_text _).symm.trans hc)
    obtain rfl := Option.some.inj ho
    exact ⟨[], by rw [List.append_nil, eq_of_splitOnce_none hdate], .midnight⟩
  | some rest =>
    obtain ⟨t, ht, rfl⟩ := eq_append_of_splitOnce hdate
    obtain rfl := eq_of_beq ht
    cases os with
    | none =>
      obtain rfl := eq_of_offset_cut_none hcut
      obtain rfl := Option.some.inj ho
      exact ⟨_, rfl, .plain hc⟩
    | some os =>
      rw [Option.mapM_some] at ho
      obtain ⟨o, hread, rfl⟩ := Option.map_eq_some_iff.mp ho
      obtain rfl | ⟨rfl, rfl⟩ := eq_append_of_offset_cut hcut
      · exact ⟨_, rfl, .offset hc hread⟩
      · -- The letter has either case.
        exact ⟨_, rfl, .offset hc hread⟩

/-! ### Zones -/

/-- Behind a date and a clock the zone's name is found. -/
lemma ZoneForm.cut {zones : List Zone} {body zs : List Char} {z : Option Zone} (h : ZoneForm zones zs z)
    (hbody : ∀ x ∈ body, x ≠ '@' ∧ x ≠ '[' ∧ x ≠ ']') :
    ∃ name, DateTime.cutZone (body ++ zs) = (body, name) ∧
      (name.mapM fun name => Zone.ofName? zones (String.ofList name)) = some z := by
  have hsign : ∀ x ∈ body, (x == '@') = false := fun x hx => beq_eq_false_iff_ne.mpr (hbody x hx).1
  cases h with
  | unnamed =>
    refine ⟨none, ?_, rfl⟩
    rw [List.append_nil]
    exact cutZone_eq_self fun x hx => ⟨(hbody x hx).1, (hbody x hx).2.2⟩
  | @sign name zone h =>
    refine ⟨some name, ?_, ?_⟩
    · rw [DateTime.cutZone, splitOnce_append hsign rfl]
    · rw [Option.mapM_some, h]
      rfl
  | @brackets name zone hname h =>
    have hbracket : ∀ x ∈ body, (x == '[') = false := fun x hx => beq_eq_false_iff_ne.mpr (hbody x hx).2.1
    have hfree : ∀ x ∈ body ++ '[' :: (name ++ [']']), (x == '@') = false := by
      simp only [List.forall_mem_append, List.forall_mem_cons, beq_eq_false_iff_ne]
      refine ⟨fun x hx => (hbody x hx).1, by decide, ?_, by simp⟩
      rintro x hx rfl
      exact hname hx
    have hends : body ++ '[' :: (name ++ [']']) = (body ++ '[' :: name) ++ [']'] := by simp
    refine ⟨some name, ?_, ?_⟩
    · rw [DateTime.cutZone, splitOnce_of_forall hfree, hends]
      have hcut : splitOnce (· == '[') (body ++ '[' :: name) = (body, some name) :=
        splitOnce_append hbracket rfl
      simp only [List.getLast?_concat, List.dropLast_concat, hcut]
    · rw [Option.mapM_some, h]
      rfl

lemma exists_zoneForm {zones : List Zone} {cs body : List Char} {name : Option (List Char)} {z : Option Zone}
    (hcut : DateTime.cutZone cs = (body, name))
    (hz : (name.mapM fun name => Zone.ofName? zones (String.ofList name)) = some z) :
    ∃ zs, cs = body ++ zs ∧ ZoneForm zones zs z := by
  have hnamed {name : List Char} (hz : ((some name).mapM fun name => Zone.ofName? zones (String.ofList name)) =
      some z) : ∃ zone, z = some zone ∧ Zone.ofName? zones (String.ofList name) = some zone := by
    rw [Option.mapM_some] at hz
    obtain ⟨zone, hzone, rfl⟩ := Option.map_eq_some_iff.mp hz
    exact ⟨zone, rfl, hzone⟩
  unfold DateTime.cutZone at hcut
  split at hcut
  · rename_i hsplit
    obtain ⟨rfl, rfl⟩ := Prod.mk.inj hcut
    obtain ⟨c, hc, rfl⟩ := eq_append_of_splitOnce hsplit
    obtain rfl := eq_of_beq hc
    obtain ⟨zone, rfl, hzone⟩ := hnamed hz
    exact ⟨_, rfl, .sign hzone⟩
  · rename_i hsplit
    split at hcut
    · rename_i hlast hbracket
      obtain ⟨rfl, rfl⟩ := Prod.mk.inj hcut
      obtain ⟨c, hc, hfront⟩ := eq_append_of_splitOnce hbracket
      obtain rfl := eq_of_beq hc
      obtain ⟨zone, rfl, hzone⟩ := hnamed hz
      have hwhole := List.dropLast_append_getLast? _ hlast
      rw [hfront] at hwhole
      have hfree := forall_of_splitOnce_none hsplit
      refine ⟨_, ?_, .brackets (fun hmem => ?_) hzone⟩
      · rw [← hwhole]
        simp
      · rw [← hwhole] at hfree
        exact absurd (hfree '@' (by simp [hmem])) (by decide)
    · obtain ⟨rfl, rfl⟩ := Prod.mk.inj hcut
      obtain rfl := Option.some.inj hz
      exact ⟨[], (List.append_nil _).symm, .unnamed⟩

/-! ### Parts -/

/-- A text is read exactly if it is a literal, with its parts. -/
theorem readParts?_eq_some_iff {zones : List Zone} {cs : List Char} {parts : DateTime.Parts} :
    DateTime.readParts? zones cs = some parts ↔ LiteralForm zones cs parts := by
  constructor
  · intro h
    unfold DateTime.readParts? at h
    obtain ⟨⟨body, name⟩, hzone⟩ : ∃ q, DateTime.cutZone cs = q := ⟨_, rfl⟩
    obtain ⟨⟨ds, rest⟩, hdate⟩ : ∃ q, splitOnce (· == 'T') body = q := ⟨_, rfl⟩
    obtain ⟨⟨clock, os⟩, hclock⟩ : ∃ q, DateTime.cutClock rest = q := ⟨_, rfl⟩
    simp only [hzone, hdate, hclock, Option.bind_eq_bind, Option.bind_eq_some_iff] at h
    obtain ⟨z, hz, d, hd, c, hc, o, ho, hparts⟩ := h
    obtain rfl := Option.some.inj hparts
    obtain ⟨zs, rfl, hzs⟩ := exists_zoneForm hzone hz
    obtain ⟨ts, rfl, hts⟩ := exists_clockForm hdate hclock hc ho
    exact .mk hd hts hzs
  · rintro ⟨hd, hc, hz⟩
    rename_i ds ts zs d c o z
    have hmem {x : Char} (hx : x ∈ ds ++ ts) :
        x.isDigit = true ∨ x ∈ ['T', '.', 'Z', 'z', '-', '+', ':'] := by
      obtain hx | hx := List.mem_append.mp hx
      · exact (mem_of_date_parse? hd hx).imp_right fun h => by simp at h ⊢; tauto
      · exact hc.mem hx
    have hbody : ∀ x ∈ ds ++ ts, x ≠ '@' ∧ x ≠ '[' ∧ x ≠ ']' := fun x hx =>
      ⟨ne_of_isDigit_or_mem (hmem hx) (by decide) (by decide),
        ne_of_isDigit_or_mem (hmem hx) (by decide) (by decide),
        ne_of_isDigit_or_mem (hmem hx) (by decide) (by decide)⟩
    have hdate : ∀ x ∈ ds, (x == 'T') = false := fun x hx =>
      beq_eq_false_iff_ne.mpr (ne_of_isDigit_or_mem (mem_of_date_parse? hd hx) (by decide) (by decide))
    obtain ⟨name, hzone, hname⟩ := hz.cut hbody
    obtain ⟨rest, clock, os, hdate, hclock, hread, hoffset⟩ := hc.cut hdate
    rw [DateTime.readParts?, hzone]
    simp only [hname, hdate, hclock, hd, hread, hoffset, Option.bind_eq_bind, Option.bind_some]
    rfl

/-! ### Instants -/

lemma parseIn_of_form {zones : List Zone} {literal : String} {parts : DateTime.Parts}
    (h : LiteralForm zones literal.toList parts) :
    DateTime.parseIn zones literal = (DateTime.ofParts parts).mapError .badArgument := by
  rw [DateTime.parseIn, readParts?_eq_some_iff.mpr h]

/-- The date-times that are read are those that the parts of a literal stand for. With an offset the instant
is what the literal shows less the offset, whether there is a zone or not, and a zone beside the offset is
never a reason to refuse the literal. A literal with a zone alone is refused exactly if the zone's clocks
never show its date and time. -/
theorem parseIn_resolves [Zones] (zones : List Zone) (literal : String) :
    Operation.dateAndTime [.string literal] = (DateTime.parseIn Zones.known literal).map .dateTime ∧
      (∀ t, DateTime.parseIn zones literal = .ok t ↔
        ∃ parts, LiteralForm zones literal.toList parts ∧ Resolves parts t) ∧
      ∀ parts, LiteralForm zones literal.toList parts →
        (∀ offset t, parts.offset = some offset → DateTime.parseIn zones literal = .ok t →
          t.instant = parts.shown.position - offset.nanos) ∧
        (∀ offset, parts.offset = some offset → ((∃ t, DateTime.parseIn zones literal = .ok t) ↔
          IsInstant (parts.shown.seconds - offset.seconds))) ∧
        ∀ zone fault, parts.offset = none → parts.zone = some zone →
          (DateTime.parseIn zones literal = .error fault ↔
            fault = .badArgument (.skipped parts.shown zone) ∧
              ∀ instant : ℤ, IsInstant (instant / nanosPerSecond) → ¬ ShowsAt zone parts.shown instant) := by
  refine ⟨rfl, fun t => ⟨fun h => ?_, ?_⟩, fun parts hform => ⟨?_, ?_, ?_⟩⟩
  · obtain ⟨parts, hparts, hmade⟩ := parseIn_eq_ok h
    exact ⟨parts, readParts?_eq_some_iff.mp hparts, ofParts_eq_ok_iff.mp hmade⟩
  · rintro ⟨parts, hform, hresolves⟩
    rw [parseIn_of_form hform, mapError_eq_ok_iff]
    exact ofParts_eq_ok_iff.mpr hresolves
  · intro offset t hoffset h
    rw [parseIn_of_form hform, mapError_eq_ok_iff] at h
    exact (ofParts_eq_ok_iff.mp h).instant_eq hoffset
  · intro offset hoffset
    simp only [parseIn_of_form hform, mapError_eq_ok_iff, ofParts_eq_ok_iff]
    exact exists_resolves_iff hoffset
  · intro zone fault hoffset hzone
    obtain ⟨shown, offset, z⟩ := parts
    obtain rfl : offset = none := hoffset
    obtain rfl : z = some zone := hzone
    rw [parseIn_of_form hform, mapError_eq_error_iff]
    constructor
    · rintro ⟨skipped, hskipped, rfl⟩
      obtain ⟨rfl, hnone⟩ := inZone_eq_error_iff.mp hskipped
      exact ⟨rfl, hnone⟩
    · rintro ⟨rfl, hnone⟩
      exact ⟨_, inZone_eq_error_iff.mpr ⟨rfl, hnone⟩, rfl⟩

/-- A quarter to three in Paris, in a night in which clocks there are set forward from two to three. -/
def skippedInParis : LocalDateTime := ⟨⟨2024, 3, 31, by decide⟩, ⟨9900 * nanosPerSecond, by decide⟩⟩

/-- A literal with an offset beside its zone in the night of the clocks being set back, one at the end of
the calendar, and one with a zone alone in the night of the clocks being set forward. -/
theorem parseIn_resolves_paris :
    (LiteralForm Zone.all "2024-10-27T02:30:00+01:00@Europe/Paris".toList
        ⟨nightInParis, some Zone.Paris.central, some paris⟩ ∧
      DateTime.parseIn Zone.all "2024-10-27T02:30:00+01:00@Europe/Paris" = .ok afterSetBack ∧
      afterSetBack.instant = nightInParis.position - Zone.Paris.central.nanos) ∧
      (∃ parts, LiteralForm Zone.all "+262142-12-31T23:30:00Z@Asia/Tokyo".toList parts ∧
        Resolves parts pastLastDay) ∧
      LiteralForm Zone.all "2024-03-31T02:45:00[Europe/Paris]".toList ⟨skippedInParis, none, some paris⟩ ∧
      DateTime.parseIn Zone.all "2024-03-31T02:45:00[Europe/Paris]" =
        .error (.badArgument (.skipped skippedInParis paris)) ∧
      ∀ instant : ℤ, IsInstant (instant / nanosPerSecond) → ¬ ShowsAt paris skippedInParis instant := by
  have hback : LiteralForm Zone.all "2024-10-27T02:30:00+01:00@Europe/Paris".toList
      ⟨nightInParis, some Zone.Paris.central, some paris⟩ := by
    have hcut : "2024-10-27T02:30:00+01:00@Europe/Paris".toList = "2024-10-27".toList ++
        'T' :: ("02:30:00".toList ++ "+01:00".toList) ++ '@' :: "Europe/Paris".toList := by
      decide +kernel
    rw [hcut]
    exact .mk (by decide +kernel) (.offset (by decide +kernel) (by decide +kernel)) (.sign (by decide +kernel))
  have hforward : LiteralForm Zone.all "2024-03-31T02:45:00[Europe/Paris]".toList
      ⟨skippedInParis, none, some paris⟩ := by
    have hcut : "2024-03-31T02:45:00[Europe/Paris]".toList = "2024-03-31".toList ++
        'T' :: "02:45:00".toList ++ '[' :: ("Europe/Paris".toList ++ [']']) := by
      decide +kernel
    rw [hcut]
    exact .mk (by decide +kernel) (.plain (by decide +kernel)) (.brackets (by decide +kernel) (by decide +kernel))
  have hread : DateTime.parseIn Zone.all "2024-10-27T02:30:00+01:00@Europe/Paris" = .ok afterSetBack := by
    decide +kernel
  have hskipped : DateTime.parseIn Zone.all "2024-03-31T02:45:00[Europe/Paris]" =
      .error (.badArgument (.skipped skippedInParis paris)) := by
    decide +kernel
  obtain ⟨-, -, hparts⟩ := parseIn_resolves Zone.all "2024-10-27T02:30:00+01:00@Europe/Paris"
  obtain ⟨-, hresolves, -⟩ := parseIn_resolves Zone.all "+262142-12-31T23:30:00Z@Asia/Tokyo"
  obtain ⟨-, -, hnever⟩ := parseIn_resolves Zone.all "2024-03-31T02:45:00[Europe/Paris]"
  exact ⟨⟨hback, hread, (hparts _ hback).1 _ _ rfl hread⟩, (hresolves pastLastDay).mp parse_pastLastDay,
    hforward, hskipped, ((hnever _ hforward).2.2 paris _ rfl rfl).mp hskipped |>.2⟩

end Feel.Proofs
