import Feel.Proofs.DurationGrammar
import Feel.Proofs.DurationTexts

/-!
# What is read for a duration literal

The reader gives the signed total of a literal whose units are of one kind and whose total is within the
bounds. Any other text is reported as a mixture of the kinds, as out of range or as no literal,
whichever it is.
-/

namespace Feel.Proofs
open Duration

/-! ### Totals -/

lemma sumsTo_unitComponent (unit : Measure) (a? : Option Amount) :
    SumsTo (unitComponent unit a?) unit.isCalendar ((a?.map Amount.value).getD 0 * unit.factor) := by
  cases a? with
  | none =>
    rw [Option.map_none, Option.getD_none, zero_mul]
    exact sumsTo_nil _
  | some a =>
    have hsum := sumsTo_singleton ⟨a.decimal, unit⟩
    rwa [value_amountDecimal] at hsum

namespace DurationLiteral

lemma sumsTo_monthComponents (l : DurationLiteral) : SumsTo l.monthComponents true l.totalMonths := by
  have hsum := (sumsTo_unitComponent .years (l.amount? .years)).append
    (sumsTo_unitComponent .months (l.amount? .months))
  have htotal : l.amount .years * (Measure.years.factor : ℕ) +
      l.amount .months * (Measure.months.factor : ℕ) = l.totalMonths := by
    simp only [Measure.factor, totalMonths]
    push_cast
    ring
  rwa [← amount, ← amount, htotal] at hsum

lemma sumsTo_secondComponents (l : DurationLiteral) : SumsTo l.secondComponents false l.totalSeconds := by
  have hsum := (sumsTo_unitComponent .days (l.amount? .days)).append
    ((sumsTo_unitComponent .hours (l.amount? .hours)).append
      ((sumsTo_unitComponent .minutes (l.amount? .minutes)).append
        (sumsTo_unitComponent .seconds (l.amount? .seconds))))
  have htotal : l.amount .days * (Measure.days.factor : ℕ) +
      (l.amount .hours * (Measure.hours.factor : ℕ) + (l.amount .minutes * (Measure.minutes.factor : ℕ) +
        l.amount .seconds * (Measure.seconds.factor : ℕ))) = l.totalSeconds := by
    simp only [Measure.factor, totalSeconds, secondsPerDay]
    push_cast
    ring
  rwa [← amount, ← amount, ← amount, ← amount, htotal] at hsum

lemma unitComponent_eq_nil_iff {unit : Measure} {a? : Option Amount} :
    unitComponent unit a? = [] ↔ a? = none := by
  cases a? <;> simp [unitComponent]

lemma hasMonths_iff (l : DurationLiteral) : l.HasMonths ↔ l.monthComponents ≠ [] := by
  simp only [HasMonths, monthComponents, Ne, List.append_eq_nil_iff, unitComponent_eq_nil_iff,
    List.exists_mem_cons_iff, List.not_mem_nil, false_and, exists_false]
  tauto

lemma hasSeconds_iff (l : DurationLiteral) : l.HasSeconds ↔ l.secondComponents ≠ [] := by
  simp only [HasSeconds, secondComponents, Ne, List.append_eq_nil_iff, unitComponent_eq_nil_iff,
    List.exists_mem_cons_iff, List.not_mem_nil, false_and, exists_false]
  tauto

lemma hasMonths_or_hasSeconds (l : DurationLiteral) : l.HasMonths ∨ l.HasSeconds := by
  obtain ⟨unit, hunit⟩ := l.some_unit
  cases unit with
  | years | months => exact Or.inl ⟨_, by simp, hunit⟩
  | days | hours | minutes | seconds => exact Or.inr ⟨_, by simp, hunit⟩

lemma amount_nonneg (l : DurationLiteral) (unit : Measure) : 0 ≤ l.amount unit := by
  unfold amount
  cases l.amount? unit with
  | none => exact le_refl 0
  | some a => exact amount_value_nonneg a

lemma exists_amount_eq (l : DurationLiteral) (unit : Measure) (hunit : unit ≠ .seconds) :
    ∃ n : ℕ, l.amount unit = n := by
  have hwhole := l.isWhole unit
  unfold amount
  cases ha : l.amount? unit with
  | none => exact ⟨0, by simp⟩
  | some a => exact (hwhole a ha).resolve_left hunit

/-- Years and months make up a whole number of months. -/
lemma exists_totalMonths_eq (l : DurationLiteral) : ∃ n : ℕ, l.totalMonths = n := by
  obtain ⟨years, hyears⟩ := l.exists_amount_eq .years (by decide)
  obtain ⟨months, hmonths⟩ := l.exists_amount_eq .months (by decide)
  exact ⟨12 * years + months, by rw [totalMonths, hyears, hmonths]; push_cast; ring⟩

lemma totalSeconds_nonneg (l : DurationLiteral) : 0 ≤ l.totalSeconds := by
  have hdays := l.amount_nonneg .days
  have hhours := l.amount_nonneg .hours
  have hminutes := l.amount_nonneg .minutes
  have hseconds := l.amount_nonneg .seconds
  unfold totalSeconds
  linarith

lemma value_total_months (l : DurationLiteral) : value (total l.monthComponents) = l.totalMonths := by
  rw [value_total, l.sumsTo_monthComponents.weight_eq]

lemma value_total_seconds (l : DurationLiteral) : value (total l.secondComponents) = l.totalSeconds := by
  rw [value_total, l.sumsTo_secondComponents.weight_eq]

/-! ### Outcomes -/

lemma ofComponents_of_not_hasSeconds (l : DurationLiteral) (text : String) (h : ¬l.HasSeconds) :
    ofComponents text (l.monthComponents ++ l.secondComponents) =
      (total l.monthComponents).word.map .months := by
  rw [hasSeconds_iff, not_not] at h
  rw [h, List.append_nil, ofComponents_of_calendar text l.sumsTo_monthComponents.isCalendar_eq]

lemma ofComponents_of_not_hasMonths (l : DurationLiteral) (text : String) (h : ¬l.HasMonths) :
    ofComponents text (l.monthComponents ++ l.secondComponents) = ofSeconds (total l.secondComponents) := by
  have hseconds : l.secondComponents ≠ [] :=
    l.hasSeconds_iff.mp (l.hasMonths_or_hasSeconds.resolve_left h)
  rw [hasMonths_iff, not_not] at h
  rw [h, List.nil_append, ofComponents_of_clock text hseconds l.sumsTo_secondComponents.isCalendar_eq]

lemma ofComponents_of_isMixed (l : DurationLiteral) (text : String) (h : l.IsMixed) :
    ofComponents text (l.monthComponents ++ l.secondComponents) = .error (.mixedDuration text) := by
  have hmonths := l.sumsTo_monthComponents.isCalendar_eq
  have hseconds := l.sumsTo_secondComponents.isCalendar_eq
  have hcalendar : (l.monthComponents ++ l.secondComponents).filter (fun c => c.measure.isCalendar) =
      l.monthComponents := by
    rw [List.filter_append, List.filter_eq_self.mpr hmonths,
      List.filter_eq_nil_iff.mpr fun c hc => by simp [hseconds c hc], List.append_nil]
  have hclock : (l.monthComponents ++ l.secondComponents).filter (not ∘ fun c => c.measure.isCalendar) =
      l.secondComponents := by
    rw [List.filter_append, List.filter_eq_nil_iff.mpr fun c hc => by simp [hmonths c hc],
      List.filter_eq_self.mpr fun c hc => by simp [hseconds c hc], List.nil_append]
  rw [ofComponents, List.partition_eq_filter_filter, hcalendar, hclock]
  simp only [List.isEmpty_iff, l.hasSeconds_iff.mp h.2, l.hasMonths_iff.mp h.1, if_false]

/-- The total of a literal within the bounds, without its sign. -/
lemma exists_ofComponents_eq (l : DurationLiteral) (text : String) (hmixed : ¬l.IsMixed)
    (hbounded : l.IsBounded) :
    ∃ d, ofComponents text (l.monthComponents ++ l.secondComponents) = .ok d ∧
      l.Denotes (if l.negative then d.negate else d) := by
  by_cases hmonths : l.HasMonths
  · have hseconds : ¬l.HasSeconds := fun h => hmixed ⟨hmonths, h⟩
    obtain ⟨n, hn⟩ := l.exists_totalMonths_eq
    have hle : n ≤ Word.max64 := by
      have hle := hbounded.1 hmonths
      rw [hn] at hle
      have hle : (n : ℚ) ≤ (Word.max64 : ℕ) := hle.trans (by norm_num [Word.max64])
      exact_mod_cast hle
    have hword : (total l.monthComponents).word = .ok (n : ℤ) := by
      rw [word_eq_ok_iff, value_total_months, hn]
      exact ⟨rfl, by omega, by omega⟩
    refine ⟨.months n, by rw [l.ofComponents_of_not_hasSeconds text hseconds, hword]; rfl, ?_⟩
    cases hnegative : l.negative with
    | false => exact ⟨hmonths, by rw [sign, hnegative, hn]; simp⟩
    | true => exact ⟨hmonths, by rw [sign, hnegative, hn]; simp⟩
  · have hseconds := l.hasMonths_or_hasSeconds.resolve_left hmonths
    have hle : ⌊value (total l.secondComponents) * 10 ^ 9⌋ ≤ maxNanos := by
      rw [value_total_seconds]
      exact (hbounded.2 hseconds).trans (by decide)
    have hnonneg : 0 ≤ value (total l.secondComponents) := by
      rw [value_total_seconds]
      exact l.totalSeconds_nonneg
    refine ⟨.nanos l.totalNanos, ?_, ?_⟩
    · rw [l.ofComponents_of_not_hasMonths text hmonths, ofSeconds_eq_ok hnonneg hle, value_total_seconds]
      rfl
    · cases hnegative : l.negative with
      | false => exact ⟨hseconds, by rw [sign, hnegative]; simp⟩
      | true => exact ⟨hseconds, by rw [sign, hnegative]; simp⟩

lemma ofComponents_of_not_isBounded (l : DurationLiteral) (text : String) (hmixed : ¬l.IsMixed)
    (hbounded : ¬l.IsBounded) :
    ofComponents text (l.monthComponents ++ l.secondComponents) = .error .overflow ∨
      ∃ n, ofComponents text (l.monthComponents ++ l.secondComponents) = .error (.outOfRange n) := by
  by_cases hmonths : l.HasMonths
  · have hseconds : ¬l.HasSeconds := fun h => hmixed ⟨hmonths, h⟩
    obtain ⟨n, hn⟩ := l.exists_totalMonths_eq
    have hlt : Word.max64 < n := by
      by_contra hle
      refine hbounded ⟨fun _ => ?_, fun h => absurd h hseconds⟩
      have hle : (n : ℚ) ≤ (Word.max64 : ℕ) := by exact_mod_cast not_lt.mp hle
      rw [hn]
      exact hle.trans (by norm_num [Word.max64])
    have hvalue : value (total l.monthComponents) = (n : ℤ) := by
      rw [value_total_months, hn, Int.cast_natCast]
    have hword : (total l.monthComponents).word = .error (.outOfRange (total l.monthComponents)) :=
      whole_eq_error (by decide) (by decide) hvalue (by omega)
    refine Or.inr ⟨total l.monthComponents, ?_⟩
    rw [l.ofComponents_of_not_hasSeconds text hseconds, hword]
    rfl
  · have hlt : (maxNanos : ℤ) < ⌊value (total l.secondComponents) * 10 ^ 9⌋ := by
      by_contra hle
      refine hbounded ⟨fun h => absurd h hmonths, fun _ => ?_⟩
      rw [value_total_seconds] at hle
      exact (not_lt.mp hle).trans (by decide)
    have hnonneg : 0 ≤ value (total l.secondComponents) := by
      rw [value_total_seconds]
      exact l.totalSeconds_nonneg
    rw [l.ofComponents_of_not_hasMonths text hmonths]
    exact ofSeconds_eq_error hnonneg hlt

/-- What a literal of one kind denotes is unique. -/
lemma Denotes.unique {l : DurationLiteral} (hmixed : ¬l.IsMixed) {d e : Duration} (hd : l.Denotes d)
    (he : l.Denotes e) : d = e := by
  cases d with
  | months n =>
    cases e with
    | months m => exact congrArg Duration.months (Int.cast_injective (hd.2.trans he.2.symm))
    | nanos m => exact absurd ⟨hd.1, he.1⟩ hmixed
  | nanos n =>
    cases e with
    | months m => exact absurd ⟨he.1, hd.1⟩ hmixed
    | nanos m => exact congrArg Duration.nanos (hd.2.trans he.2.symm)

end DurationLiteral

section Reading

variable {text : String} {l : DurationLiteral} (h : l.text = text.toList)
include h

lemma durationParse_eq :
    Duration.parse text = (ofComponents text (l.monthComponents ++ l.secondComponents)).map
      fun d => if l.negative then d.negate else d := by
  have hread := readLiteral?_eq_some_iff_literal.mpr ⟨l, h, rfl, rfl⟩
  rw [Duration.parse, hread]

lemma durationParse_of_isMixed (hmixed : l.IsMixed) :
    Duration.parse text = .error (.mixedDuration text) := by
  rw [durationParse_eq h, l.ofComponents_of_isMixed text hmixed]
  rfl

lemma exists_durationParse_eq (hmixed : ¬l.IsMixed) (hbounded : l.IsBounded) :
    ∃ d, Duration.parse text = .ok d ∧ l.Denotes d := by
  obtain ⟨d, hd, hdenotes⟩ := l.exists_ofComponents_eq text hmixed hbounded
  rw [durationParse_eq h, hd]
  exact ⟨_, rfl, hdenotes⟩

lemma durationParse_of_not_isBounded (hmixed : ¬l.IsMixed) (hbounded : ¬l.IsBounded) :
    Duration.parse text = .error .overflow ∨ ∃ n, Duration.parse text = .error (.outOfRange n) := by
  rw [durationParse_eq h]
  obtain herror | ⟨n, herror⟩ := l.ofComponents_of_not_isBounded text hmixed hbounded
  · rw [herror]
    exact Or.inl rfl
  · rw [herror]
    exact Or.inr ⟨n, rfl⟩

/-- A literal has one of three outcomes, and these exclude each other. -/
lemma durationParse_cases :
    (l.IsMixed ∧ Duration.parse text = .error (.mixedDuration text)) ∨
    (¬l.IsMixed ∧ l.IsBounded ∧ ∃ d, Duration.parse text = .ok d ∧ l.Denotes d) ∨
    (¬l.IsMixed ∧ ¬l.IsBounded ∧ (Duration.parse text = .error .overflow ∨
      ∃ n, Duration.parse text = .error (.outOfRange n))) := by
  by_cases hmixed : l.IsMixed
  · exact Or.inl ⟨hmixed, durationParse_of_isMixed h hmixed⟩
  · by_cases hbounded : l.IsBounded
    · exact Or.inr (Or.inl ⟨hmixed, hbounded, exists_durationParse_eq h hmixed hbounded⟩)
    · exact Or.inr (Or.inr ⟨hmixed, hbounded, durationParse_of_not_isBounded h hmixed hbounded⟩)

end Reading

lemma durationParse_of_no_literal {text : String} (h : ¬∃ l : DurationLiteral, l.text = text.toList) :
    Duration.parse text = .error (.malformed .duration text) := by
  have hread : readLiteral? text.toList = none := by
    by_contra hsome
    obtain ⟨⟨negative, components⟩, hsome⟩ := Option.ne_none_iff_exists'.mp hsome
    obtain ⟨l, hl, -⟩ := readLiteral?_eq_some_iff_literal.mp hsome
    exact h ⟨l, hl⟩
  rw [Duration.parse, hread]

lemma exists_literal_of_durationParse {text : String} {result : Except Fault Duration}
    (h : Duration.parse text = result) (hresult : result ≠ .error (.malformed .duration text)) :
    ∃ l : DurationLiteral, l.text = text.toList := by
  by_contra hnone
  exact hresult (h.symm.trans (durationParse_of_no_literal hnone))

/-- For every text: it is read as a duration exactly if it is a literal of one kind within the bounds, and
the duration is the literal's total. A literal of both kinds is reported as mixed whatever its total, a
literal of one kind beyond the bounds as out of range or as an overflow, and any other text as no
literal. -/
theorem durationParse_outcomes (text : String) :
    (∀ d, Duration.parse text = .ok d ↔
      ∃ l : DurationLiteral, l.text = text.toList ∧ ¬l.IsMixed ∧ l.IsBounded ∧ l.Denotes d) ∧
    (Duration.parse text = .error (.mixedDuration text) ↔
      ∃ l : DurationLiteral, l.text = text.toList ∧ l.IsMixed) ∧
    ((Duration.parse text = .error .overflow ∨ ∃ n, Duration.parse text = .error (.outOfRange n)) ↔
      ∃ l : DurationLiteral, l.text = text.toList ∧ ¬l.IsMixed ∧ ¬l.IsBounded) ∧
    (Duration.parse text = .error (.malformed .duration text) ↔
      ¬∃ l : DurationLiteral, l.text = text.toList) := by
  refine ⟨fun d => ⟨fun h => ?_, ?_⟩, ⟨fun h => ?_, ?_⟩, ⟨fun h => ?_, ?_⟩,
    ⟨?_, durationParse_of_no_literal⟩⟩
  · obtain ⟨l, hl⟩ := exists_literal_of_durationParse h (by simp)
    obtain ⟨-, hp⟩ | ⟨hmixed, hbounded, e, hp, he⟩ | ⟨-, -, hp | ⟨n, hp⟩⟩ := durationParse_cases hl
    · exact absurd (h.symm.trans hp) (by simp)
    · obtain rfl := Except.ok.inj (h.symm.trans hp)
      exact ⟨l, hl, hmixed, hbounded, he⟩
    · exact absurd (h.symm.trans hp) (by simp)
    · exact absurd (h.symm.trans hp) (by simp)
  · rintro ⟨l, hl, hmixed, hbounded, hd⟩
    obtain ⟨e, hp, he⟩ := exists_durationParse_eq hl hmixed hbounded
    rw [hp, hd.unique hmixed he]
  · obtain ⟨l, hl⟩ := exists_literal_of_durationParse h (by simp)
    obtain ⟨hmixed, -⟩ | ⟨-, -, e, hp, -⟩ | ⟨-, -, hp | ⟨n, hp⟩⟩ := durationParse_cases hl
    · exact ⟨l, hl, hmixed⟩
    · exact absurd (h.symm.trans hp) (by simp)
    · exact absurd (h.symm.trans hp) (by simp)
    · exact absurd (h.symm.trans hp) (by simp)
  · rintro ⟨l, hl, hmixed⟩
    exact durationParse_of_isMixed hl hmixed
  · have hliteral : ∃ l : DurationLiteral, l.text = text.toList := by
      obtain h | ⟨n, h⟩ := h
      · exact exists_literal_of_durationParse h (by simp)
      · exact exists_literal_of_durationParse h (by simp)
    obtain ⟨l, hl⟩ := hliteral
    obtain ⟨-, hp⟩ | ⟨-, -, e, hp, -⟩ | ⟨hmixed, hbounded, -⟩ := durationParse_cases hl
    · rw [hp] at h
      exact absurd h (by simp)
    · rw [hp] at h
      exact absurd h (by simp)
    · exact ⟨l, hl, hmixed, hbounded⟩
  · rintro ⟨l, hl, hmixed, hbounded⟩
    exact durationParse_of_not_isBounded hl hmixed hbounded
  · rintro h ⟨l, hl⟩
    obtain ⟨-, hp⟩ | ⟨-, -, e, hp, -⟩ | ⟨-, -, hp | ⟨n, hp⟩⟩ := durationParse_cases hl
    all_goals exact absurd (h.symm.trans hp) (by simp)

end Feel.Proofs
