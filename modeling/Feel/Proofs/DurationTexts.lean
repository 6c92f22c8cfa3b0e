import Feel.Proofs.DurationLiterals
import Feel.Proofs.Produced

/-!
# Durations as text

The text of a duration spells its components, without those that are zero, and is read back as the
duration. So the texts tell the durations apart, of either kind.
-/

namespace Feel.Proofs
open Duration Text

/-! ### Amounts -/

lemma readAmount?_ofNat (n : ℕ) : readAmount? (Digits.ofNat n) = some (.ofInt n) := by
  have hfree : ∀ c ∈ Digits.ofNat n, (c == '.') = false := fun c hc =>
    beq_point_eq_false_of_isDigit (allDigits_ofNat n c hc)
  have hnumber : Digits.isNumber (Digits.ofNat n) = true :=
    isNumber_iff.mpr ⟨ofNat_ne_nil n, allDigits_ofNat n⟩
  rw [readAmount?, splitOnce_of_forall hfree]
  dsimp only
  rw [if_pos ⟨hnumber, rfl⟩, Option.getD_none, Decimal.ofParts, List.append_nil, toNat_ofNat]
  rfl

lemma ofText?_ofNat (n : ℕ) (measure : Measure) :
    Component.ofText? (Digits.ofNat n) measure = some ⟨.ofInt n, measure⟩ := by
  have hscale : (Decimal.ofInt n).normalize.scale ≤ 0 :=
    scale_nonpos_of_value_eq (isNormal_normalize _) (by rw [value_normalize, value_ofInt])
  rw [Component.ofText?, readAmount?_ofNat, Option.bind_eq_bind, Option.bind_some,
    if_pos (Or.inr hscale)]

/-- A canonical numeral without a sign is an amount. -/
lemma readAmount?_text {m : Numeral} (hm : m.IsCanonical) (hsign : m.sign = none) :
    readAmount? m.text = some (exactDecimal m) := by
  have htext : m.text = m.mantissa := by
    rw [Numeral.text, Numeral.body, hsign, hm.exponent_eq_none, Numeral.exponentText, List.append_nil]
    rfl
  have hwhole : Digits.isNumber m.whole = true := isNumber_iff.mpr ⟨hm.whole_ne_nil, m.allDigits_whole⟩
  have hfraction : m.fraction.all Digits.isNumber = true := by
    rw [Option.all_eq_true]
    intro fraction hf
    have hdigits := m.allDigits_fraction
    rw [Option.mem_def.mp hf] at hdigits
    exact isNumber_iff.mpr ⟨(hm.fraction_getLast? fraction hf).1, hdigits⟩
  have hexact : exactDecimal m = .ofParts false m.whole (m.fraction.getD []) 0 := by
    rw [exactDecimal, hsign, Numeral.exponentValue, hm.exponent_eq_none]
    rfl
  rw [readAmount?, htext, splitOnce_mantissa, hexact]
  exact if_pos ⟨hwhole, hfraction⟩

lemma exists_ofText?_plain {n : Decimal} (h : 0 ≤ value n) :
    ∃ a, Component.ofText? n.plain.toList .seconds = some ⟨a, .seconds⟩ ∧ value a = value n := by
  obtain ⟨m, hm, hsign, htext, hvalue⟩ := exists_numeral_plainHeld (isNormal_normalize n)
  rw [value_normalize] at hvalue
  have hnonneg : 0 ≤ n.normalize.digits := by
    rw [← value_nonneg_iff, value_normalize]
    exact h
  rw [signOf, if_neg (not_lt.mpr hnonneg)] at hsign
  refine ⟨exactDecimal m, ?_, hvalue⟩
  rw [Component.ofText?, Decimal.plain, ← htext, readAmount?_text hm hsign, Option.bind_eq_bind,
    Option.bind_some, if_pos (Or.inl rfl)]

/-! ### Components -/

/-- Components that all count months, or none, and make up the sum in months or in seconds. -/
structure SumsTo (components : List Component) (calendar : Bool) (sum : ℚ) : Prop where
  isCalendar_eq : ∀ c ∈ components, c.measure.isCalendar = calendar
  weight_eq : weight components = sum

lemma sumsTo_nil (calendar : Bool) : SumsTo [] calendar 0 := ⟨by simp, rfl⟩

lemma sumsTo_singleton (c : Component) :
    SumsTo [c] c.measure.isCalendar (value c.amount * c.measure.factor) where
  isCalendar_eq := List.forall_mem_singleton.mpr rfl
  weight_eq := by rw [weight, List.map_singleton, List.sum_singleton]

lemma SumsTo.append {a b : List Component} {calendar : Bool} {x y : ℚ} (ha : SumsTo a calendar x)
    (hb : SumsTo b calendar y) : SumsTo (a ++ b) calendar (x + y) where
  isCalendar_eq := List.forall_mem_append.mpr ⟨ha.isCalendar_eq, hb.isCalendar_eq⟩
  weight_eq := by
    rw [weight, List.map_append, List.sum_append, ← ha.weight_eq, ← hb.weight_eq]
    rfl

/-- The component of a count, unless the count is zero. -/
def counted (n : ℕ) (measure : Measure) : List Component :=
  if n = 0 then [] else [⟨.ofInt n, measure⟩]

lemma sumsTo_counted (n : ℕ) (measure : Measure) :
    SumsTo (counted n measure) measure.isCalendar (n * measure.factor) := by
  unfold counted
  split_ifs with hzero
  · rw [hzero, Nat.cast_zero, zero_mul]
    exact sumsTo_nil _
  · have hsum := sumsTo_singleton ⟨.ofInt n, measure⟩
    rwa [value_ofInt, Int.cast_natCast] at hsum

/-- A count and its unit are spelled before what follows the unit, or left out. -/
lemma Spells.part {inTime : Bool} {last n : ℕ} {unit : Char} {measure : Measure} {cs : List Char}
    {components : List Component} (hunit : Measure.ofLetter? inTime unit = some measure)
    (hlast : last < measure.rank)
    (h : Spells inTime (if n = 0 then last else measure.rank) cs components) :
    Spells inTime last (Duration.part n unit ++ cs) (counted n measure ++ components) := by
  unfold Duration.part counted
  split_ifs at h ⊢
  · exact h
  · rw [List.append_assoc]
    exact .unit hunit (ofText?_ofNat n measure) hlast h

/-! ### Months -/

lemma exists_spells_monthsText (n : ℕ) :
    ∃ components, Spells false 0 (monthsText n) components ∧ SumsTo components true n := by
  by_cases hzero : n = 0
  · have hamount : Component.ofText? ['0'] .months = some ⟨.ofInt 0, .months⟩ := by decide
    have hspells : Spells false 0 (['0'] ++ ['M']) [⟨.ofInt 0, .months⟩] :=
      .unit rfl hamount (by decide) (.done (by decide) (by decide))
    have hsum := sumsTo_singleton ⟨.ofInt 0, .months⟩
    rw [value_ofInt, Int.cast_zero, zero_mul] at hsum
    rw [monthsText, if_pos hzero, hzero, Nat.cast_zero]
    exact ⟨_, hspells, hsum⟩
  · have hspells : Spells false 0 (part (n / 12) 'Y' ++ (part (n % 12) 'M' ++ []))
        (counted (n / 12) .years ++ (counted (n % 12) .months ++ [])) := by
      refine .part rfl (by decide) (.part rfl ?_ (.done ?_ (by simp)))
      · split_ifs <;> decide
      · split_ifs <;> first | decide | omega
    have hsum := (sumsTo_counted (n / 12) .years).append (sumsTo_counted (n % 12) .months)
    have hmonths : ((n / 12 : ℕ) * (Measure.years.factor : ℕ) +
        (n % 12 : ℕ) * (Measure.months.factor : ℕ) : ℚ) = n := by
      simp only [Measure.factor]
      exact_mod_cast (by omega : n / 12 * 12 + n % 12 * 1 = n)
    rw [hmonths] at hsum
    rw [List.append_nil, List.append_nil] at hspells
    rw [monthsText, if_neg hzero]
    exact ⟨_, hspells, hsum⟩

/-! ### Nanoseconds -/

lemma value_nanos (n : ℕ) : value ⟨n, 9⟩ = n / 10 ^ 9 := by
  rw [value, zpow_neg, div_eq_mul_inv, Int.cast_natCast]
  rfl

lemma sumsTo_nil_nanos : SumsTo [] false (value ⟨(0 : ℕ), 9⟩) := by
  rw [value_nanos, Nat.cast_zero, zero_div]
  exact sumsTo_nil false

/-- Seconds are spelled at the end, or left out. -/
lemma exists_spells_secondsText (n : ℕ) {last : ℕ} (hlast : last < 6) (htime : n = 0 → 4 ≤ last) :
    ∃ components, Spells true last (secondsText n) components ∧
      SumsTo components false (value ⟨n, 9⟩) := by
  by_cases hzero : n = 0
  · have hle := htime hzero
    rw [secondsText, if_pos hzero, hzero]
    exact ⟨[], .done (by omega) fun _ => hle, sumsTo_nil_nanos⟩
  · obtain ⟨a, hread, hvalue⟩ := exists_ofText?_plain (n := ⟨n, 9⟩) (value_nonneg_iff.mpr (by simp))
    have hsum := sumsTo_singleton ⟨a, .seconds⟩
    rw [hvalue, Measure.factor, Nat.cast_one, mul_one] at hsum
    rw [secondsText, if_neg hzero]
    exact ⟨_, .unit rfl hread hlast (.done (by decide) (by decide)), hsum⟩

/-- Hours, minutes and seconds. -/
def timeText (n : ℕ) : List Char :=
  part (n / nanosPerSecond / 3600 % 24) 'H' ++ part (n / nanosPerSecond / 60 % 60) 'M' ++
    secondsText (n % (60 * nanosPerSecond))

lemma part_eq_nil_iff {n : ℕ} {unit : Char} : part n unit = [] ↔ n = 0 := by
  unfold part
  split_ifs with hzero <;> simp [hzero]

lemma secondsText_eq_nil_iff {n : ℕ} : secondsText n = [] ↔ n = 0 := by
  unfold secondsText
  split_ifs with hzero <;> simp [hzero]

lemma timeText_eq_nil_iff (n : ℕ) : timeText n = [] ↔ n % nanosPerDay = 0 := by
  rw [timeText, List.append_eq_nil_iff, List.append_eq_nil_iff, part_eq_nil_iff, part_eq_nil_iff,
    secondsText_eq_nil_iff]
  unfold nanosPerDay secondsPerDay nanosPerSecond
  omega

/-- Hours, minutes and seconds spell what a duration has beyond whole days. -/
lemma exists_spells_timeText (n : ℕ) {last : ℕ} (hlast : last < 4) (h : timeText n ≠ []) :
    ∃ components, Spells true last (timeText n) components ∧
      SumsTo components false (value ⟨(n % nanosPerDay : ℕ), 9⟩) := by
  have hday : (n / nanosPerSecond / 3600 % 24 * 3600 + n / nanosPerSecond / 60 % 60 * 60) * 10 ^ 9 +
      n % (60 * nanosPerSecond) = n % nanosPerDay := by
    unfold nanosPerDay secondsPerDay nanosPerSecond
    omega
  unfold timeText at h ⊢
  generalize n / nanosPerSecond / 3600 % 24 = hours at h hday ⊢
  generalize n / nanosPerSecond / 60 % 60 = minutes at h hday ⊢
  generalize n % (60 * nanosPerSecond) = rest at h hday ⊢
  -- The last unit before the seconds, if there is one.
  let before := if minutes = 0 then if hours = 0 then last else 4 else 5
  have hbefore : before < 6 := by
    unfold before
    split_ifs <;> omega
  have htime : rest = 0 → 4 ≤ before := by
    rintro rfl
    unfold before
    split_ifs with hminutes hhours
    · subst hminutes hhours
      exact absurd rfl h
    · omega
    · omega
  obtain ⟨seconds, hseconds, hrest⟩ := exists_spells_secondsText rest hbefore htime
  refine ⟨counted hours .hours ++ (counted minutes .minutes ++ seconds), ?_, ?_⟩
  · rw [List.append_assoc]
    refine .part rfl hlast (.part rfl ?_ hseconds)
    show (if hours = 0 then last else 4) < 5
    split_ifs <;> omega
  · have hsum := (sumsTo_counted hours .hours).append ((sumsTo_counted minutes .minutes).append hrest)
    have hvalue : (hours * (Measure.hours.factor : ℕ) + (minutes * (Measure.minutes.factor : ℕ) +
        value ⟨rest, 9⟩) : ℚ) = value ⟨(n % nanosPerDay : ℕ), 9⟩ := by
      rw [value_nanos, value_nanos, ← hday]
      simp only [Measure.factor]
      push_cast
      ring
    rwa [hvalue] at hsum

/-- What stands after the days, if anything does. -/
lemma exists_spells_afterDays (n : ℕ) {last : ℕ} (hlast : last < 4)
    (h : n % nanosPerDay = 0 → last ≠ 0) :
    ∃ components,
      Spells false last (if (timeText n).isEmpty then [] else 'T' :: timeText n) components ∧
      SumsTo components false (value ⟨(n % nanosPerDay : ℕ), 9⟩) := by
  by_cases hempty : timeText n = []
  · have hwhole := (timeText_eq_nil_iff n).mp hempty
    rw [if_pos (List.isEmpty_iff.mpr hempty), hwhole]
    exact ⟨[], .done (h hwhole) (by simp), sumsTo_nil_nanos⟩
  · obtain ⟨time, htime, hsum⟩ := exists_spells_timeText n hlast hempty
    rw [if_neg (List.isEmpty_iff.not.mpr hempty)]
    exact ⟨time, .time htime, hsum⟩

lemma nanosText_eq {n : ℕ} (h : n ≠ 0) :
    nanosText n = part (n / nanosPerSecond / secondsPerDay) 'D' ++
      if (timeText n).isEmpty then [] else 'T' :: timeText n := by
  rw [nanosText]
  exact if_neg h

lemma exists_spells_nanosText (n : ℕ) :
    ∃ components, Spells false 0 (nanosText n) components ∧ components ≠ [] ∧
      SumsTo components false (value ⟨n, 9⟩) := by
  by_cases hzero : n = 0
  · have hamount : Component.ofText? ['0'] .seconds = some ⟨.ofInt 0, .seconds⟩ := by decide
    have hspells : Spells true 0 (['0'] ++ ['S']) [⟨.ofInt 0, .seconds⟩] :=
      .unit rfl hamount (by decide) (.done (by decide) (by decide))
    have hsum := sumsTo_singleton ⟨.ofInt 0, .seconds⟩
    rw [value_ofInt, Int.cast_zero, zero_mul] at hsum
    rw [nanosText, if_pos hzero, hzero, value_nanos, Nat.cast_zero, zero_div]
    exact ⟨_, .time hspells, List.cons_ne_nil _ _, hsum⟩
  · have hday : n / nanosPerSecond / secondsPerDay * secondsPerDay * 10 ^ 9 + n % nanosPerDay = n := by
      unfold nanosPerDay secondsPerDay nanosPerSecond
      omega
    rw [nanosText_eq hzero]
    generalize n / nanosPerSecond / secondsPerDay = days at hday ⊢
    have hlast : n % nanosPerDay = 0 → (if days = 0 then 0 else 3) ≠ 0 := by
      intro hwhole
      split_ifs with hdays
      · rw [hdays, hwhole, zero_mul, zero_mul] at hday
        exact absurd hday.symm hzero
      · decide
    obtain ⟨time, htime, hrest⟩ := exists_spells_afterDays n (by split_ifs <;> decide) hlast
    have hsum := (sumsTo_counted days .days).append hrest
    have hvalue : (days * (Measure.days.factor : ℕ) + value ⟨(n % nanosPerDay : ℕ), 9⟩ : ℚ) =
        value ⟨n, 9⟩ := by
      rw [value_nanos, value_nanos]
      nth_rewrite 2 [← hday]
      simp only [Measure.factor]
      push_cast
      ring
    rw [hvalue] at hsum
    refine ⟨counted days .days ++ time, .part rfl (by decide) htime, ?_, hsum⟩
    intro hnil
    have hweight := hsum.weight_eq
    rw [hnil] at hweight
    exact hzero (Int.natCast_eq_zero.mp (value_eq_zero.mp hweight.symm))

/-! ### Reading back -/

lemma text_months (n : ℤ) :
    (Duration.months n).text = periodMark (decide (n < 0)) ++ monthsText n.natAbs := by
  rw [Duration.text, periodMark]
  simp only [decide_eq_true_eq]

lemma text_nanos (n : ℤ) :
    (Duration.nanos n).text = periodMark (decide (n < 0)) ++ nanosText n.natAbs := by
  rw [Duration.text, periodMark]
  simp only [decide_eq_true_eq]

lemma negate_natAbs {f : ℤ → Duration} (hf : ∀ k, (f k).negate = f (-k)) (n : ℤ) :
    (if decide (n < 0) then (f n.natAbs).negate else f n.natAbs) = f n := by
  split_ifs with hneg
  · rw [decide_eq_true_eq] at hneg
    rw [hf, show -(n.natAbs : ℤ) = n by omega]
  · rw [decide_eq_true_eq] at hneg
    rw [show (n.natAbs : ℤ) = n by omega]

/-- The text of a duration spells components that make up the duration. -/
lemma exists_readLiteral?_text {d : Duration} (h : d.InRange) (literal : String) :
    ∃ negative components magnitude, readLiteral? d.text = some (negative, components) ∧
      ofComponents literal components = .ok magnitude ∧
      (if negative then magnitude.negate else magnitude) = d := by
  cases d with
  | months n =>
    obtain ⟨components, hspells, hsum⟩ := exists_spells_monthsText n.natAbs
    refine ⟨decide (n < 0), components, .months n.natAbs, ?_, ?_, ?_⟩
    · exact readLiteral?_eq_some_iff.mpr ⟨_, text_months n, hspells⟩
    · have hword : (total components).word = .ok (n.natAbs : ℤ) := by
        have hle : n.natAbs ≤ Word.max64 := h
        rw [word_eq_ok_iff, value_total, hsum.weight_eq]
        exact ⟨rfl, by omega, by omega⟩
      rw [ofComponents_of_calendar literal hsum.isCalendar_eq, hword]
      rfl
    · exact negate_natAbs (f := .months) (fun _ => rfl) n
  | nanos n =>
    obtain ⟨components, hspells, hne, hsum⟩ := exists_spells_nanosText n.natAbs
    refine ⟨decide (n < 0), components, .nanos n.natAbs, ?_, ?_, ?_⟩
    · exact readLiteral?_eq_some_iff.mpr ⟨_, text_nanos n, hspells⟩
    · have hseconds : value (total components) = value ⟨n.natAbs, 9⟩ := by
        rw [value_total, hsum.weight_eq]
      have hnanos : ⌊value (total components) * 10 ^ 9⌋ = n.natAbs := by
        rw [hseconds, value_nanos, div_mul_cancel₀ _ (by positivity), Int.floor_natCast]
      have hnonneg : 0 ≤ value (total components) := by
        rw [hseconds]
        exact value_nonneg_iff.mpr (Int.natCast_nonneg _)
      have hread := ofSeconds_eq_ok hnonneg (by rw [hnanos]; exact_mod_cast h)
      rw [ofComponents_of_clock literal hne hsum.isCalendar_eq, hread, hnanos]
    · exact negate_natAbs (f := .nanos) (fun _ => rfl) n

lemma parse_text {d : Duration} (h : d.InRange) : Duration.parse (String.ofList d.text) = .ok d := by
  obtain ⟨negative, components, magnitude, hread, hmade, hsigned⟩ :=
    exists_readLiteral?_text h (String.ofList d.text)
  rw [Duration.parse, String.toList_ofList, hread]
  simp only [hmade]
  exact congrArg Except.ok hsigned

lemma string_duration (d : Duration) :
    Operation.string [.duration d] = .ok (.string (String.ofList d.text)) := by
  have htext : (Value.duration d).text = .ok (String.ofList d.text) := by
    show (Value.duration d).display = .ok (String.ofList d.text)
    rw [Value.display]
  exact Operation.string_of_text htext

lemma duration_string_text {d : Duration} (h : d.InRange) :
    Operation.duration [.string (String.ofList d.text)] = .ok (.duration d) := by
  obtain ⟨negative, components, -, hread, -, -⟩ := exists_readLiteral?_text h ""
  have htrim : trim d.text = d.text := trim_eq_self (not_isBlank_of_readLiteral? hread)
  have hne : ¬d.text.isEmpty = true := by
    intro hempty
    rw [List.isEmpty_iff.mp hempty] at hread
    exact absurd hread (by simp [readLiteral?])
  rw [Operation.duration, Operation.onKnown]
  · simp only [String.toList_ofList, htrim, if_neg hne, parse_text h]
    rfl
  · simp

/-! ### Durations that are produced -/

lemma inRange_monthsUntil (a b : LocalDateTime) : (Duration.months (a.monthsUntil b)).InRange := by
  have hyears (d : Date) : -12 * 262143 ≤ d.monthIndex ∧ d.monthIndex < 12 * 262143 := by
    obtain ⟨⟨hmin, hmax⟩, ⟨-, hmonth⟩, -⟩ := d.valid
    unfold Date.minYear at hmin
    unfold Date.maxYear at hmax
    unfold Date.monthIndex
    omega
  have ha := hyears a.date
  have hb := hyears b.date
  have hbound : (a.monthsUntil b).natAbs ≤ 24 * 262143 := by
    unfold LocalDateTime.monthsUntil LocalDateTime.monthIndex
    dsimp only
    split_ifs <;> omega
  exact hbound.trans (by decide)

lemma inRange_ofMinutes (o : Offset) : (Duration.ofMinutes (o.seconds.tdiv 60)).InRange := by
  have hbounded : o.seconds.natAbs < 86400 := o.bounded
  have hminutes := Int.natAbs_tdiv_le_natAbs o.seconds 60
  have hbound : (o.seconds.tdiv 60 * 60 * nanosPerSecond).natAbs ≤ 86400 * 60 * nanosPerSecond := by
    unfold nanosPerSecond
    omega
  exact hbound.trans (by decide)

lemma Fresh.inRange [Zones] {args : List Value} {d : Duration} (h : Fresh args (.duration d)) : d.InRange := by
  cases h with
  | durationOfText h => exact yields_durationParse _ d h
  | monthsBetween a b => exact inRange_monthsUntil a b
  | offsetOf o => exact inRange_ofMinutes o

lemma Produced.inRange [Zones] {d : Duration} (h : Produced (.duration d)) : d.InRange := by
  refine h.forall_part (P := fun v => ∀ d, v = .duration d → d.InRange) ?_ ?_ _ .self d rfl
  · rintro v hv d rfl
    exact hv.elim
  · rintro args v - hv d rfl
    exact hv.inRange

/-- The durations that are produced are those within the bounds. -/
lemma produced_duration_iff [Zones] {d : Duration} : Produced (.duration d) ↔ d.InRange := by
  constructor
  · exact Produced.inRange
  · intro h
    have hrun : Builtin.duration.run [.string (String.ofList d.text)] = .ok (.duration d) :=
      duration_string_text h
    exact produced_of_run_string hrun

/-- A duration is read back from its text as it was, and durations of either kind are equal exactly if
their texts are. -/
theorem string_duration_roundTrip [Zones] {a b : Duration} (ha : Produced (.duration a))
    (hb : Produced (.duration b)) :
    ∃ s t, Operation.string [.duration a] = .ok (.string s) ∧
      Operation.string [.duration b] = .ok (.string t) ∧
      Operation.duration [.string s] = .ok (.duration a) ∧
      ((Value.duration a == Value.duration b) = true ↔ s = t) := by
  have hreadA := duration_string_text ha.inRange
  have hreadB := duration_string_text hb.inRange
  refine ⟨_, _, string_duration a, string_duration b, hreadA, ?_⟩
  have hbeq : (Value.duration a == Value.duration b) = (a == b) := rfl
  rw [hbeq, beq_iff_eq]
  constructor
  · rintro rfl
    rfl
  · intro h
    rw [h, hreadB] at hreadA
    exact (Value.duration.inj (Except.ok.inj hreadA)).symm

/-- The zero durations of the two kinds differ in their texts and are not equal, but twelve months are
one year. -/
theorem string_duration_roundTrip_zero :
    Produced (.duration (.months 0)) ∧ Produced (.duration (.nanos 0)) ∧
      Operation.string [.duration (.months 0)] = .ok (.string "P0M") ∧
      Operation.string [.duration (.nanos 0)] = .ok (.string "PT0S") ∧
      Operation.duration [.string "P0M"] = .ok (.duration (.months 0)) ∧
      (Value.duration (.months 0) == Value.duration (.nanos 0)) = false ∧
      Duration.parse "P12M" = .ok (.months 12) ∧ Duration.parse "P1Y" = .ok (.months 12) := by
  have hmonths : Produced (.duration (.months 0)) := produced_duration_iff.mpr (by decide)
  have hnanos : Produced (.duration (.nanos 0)) := produced_duration_iff.mpr (by decide)
  have hmonthsText : String.ofList (Duration.months 0).text = "P0M" := by decide
  have hnanosText : String.ofList (Duration.nanos 0).text = "PT0S" := by decide
  obtain ⟨s, t, hs, ht, hread, hbeq⟩ := string_duration_roundTrip hmonths hnanos
  rw [string_duration, hmonthsText] at hs ⊢
  rw [string_duration, hnanosText] at ht ⊢
  obtain rfl := Value.string.inj (Except.ok.inj hs)
  obtain rfl := Value.string.inj (Except.ok.inj ht)
  refine ⟨hmonths, hnanos, rfl, rfl, hread, ?_, by decide +kernel, by decide +kernel⟩
  rw [Bool.eq_false_iff, hbeq.ne]
  decide

end Feel.Proofs
