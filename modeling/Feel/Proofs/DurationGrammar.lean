import Feel.Proofs.DurationLiterals

/-!
# The grammar of duration literals

A literal is described as it is written, by the amounts of the units that stand in it. What the reader
takes for the sign and the components of a text are those of a literal that is written so, and there
are none if the text is no literal.
-/

namespace Feel.Proofs
open Duration

/-! ### Literals as they are written -/

/-- Digits, perhaps with a point and more digits. -/
structure Amount where
  whole : List Char
  fraction : Option (List Char)
  isNumber_whole : Digits.isNumber whole = true
  isNumber_fraction : ∀ digits ∈ fraction, Digits.isNumber digits = true

namespace Amount

def text (a : Amount) : List Char := a.whole ++ Numeral.fractionText a.fraction

/-- The number that the digits denote by their places. -/
def value (a : Amount) : ℚ :=
  Digits.toNat a.whole + Digits.toNat (a.fraction.getD []) / 10 ^ (a.fraction.getD []).length

def IsWhole (a : Amount) : Prop := ∃ n : ℕ, a.value = n

end Amount

/-- The letter of a unit, which months and minutes share. -/
def unitLetter : Measure → Char
  | .years => 'Y'
  | .months => 'M'
  | .days => 'D'
  | .hours => 'H'
  | .minutes => 'M'
  | .seconds => 'S'

/-- A literal as it is written: a sign, and the amounts of the units that stand in it. At least one unit
does, and only an amount of seconds need not be whole. -/
structure DurationLiteral where
  negative : Bool
  amount? : Measure → Option Amount
  some_unit : ∃ unit, amount? unit ≠ none
  isWhole : ∀ unit, ∀ a ∈ amount? unit, unit = .seconds ∨ a.IsWhole

/-- An amount and the letter of its unit, if the unit stands in a literal. -/
def unitText (unit : Measure) : Option Amount → List Char
  | some a => a.text ++ [unitLetter unit]
  | none => []

/-- The letter `T` stands before hours, minutes and seconds, if there are any. -/
def marked (time : List Char) : List Char := if time = [] then [] else 'T' :: time

namespace DurationLiteral

def part (l : DurationLiteral) (unit : Measure) : List Char := unitText unit (l.amount? unit)

def dateText (l : DurationLiteral) : List Char := l.part .years ++ (l.part .months ++ l.part .days)

def timeText (l : DurationLiteral) : List Char := l.part .hours ++ (l.part .minutes ++ l.part .seconds)

/-- What follows the letter `P`. -/
def body (l : DurationLiteral) : List Char := l.dateText ++ marked l.timeText

def text (l : DurationLiteral) : List Char := periodMark l.negative ++ l.body

def amount (l : DurationLiteral) (unit : Measure) : ℚ := ((l.amount? unit).map Amount.value).getD 0

def totalMonths (l : DurationLiteral) : ℚ := 12 * l.amount .years + l.amount .months

def totalSeconds (l : DurationLiteral) : ℚ :=
  86400 * l.amount .days + 3600 * l.amount .hours + 60 * l.amount .minutes + l.amount .seconds

def HasMonths (l : DurationLiteral) : Prop := ∃ unit ∈ [.years, .months], l.amount? unit ≠ none

def HasSeconds (l : DurationLiteral) : Prop :=
  ∃ unit ∈ [.days, .hours, .minutes, .seconds], l.amount? unit ≠ none

def IsMixed (l : DurationLiteral) : Prop := l.HasMonths ∧ l.HasSeconds

/-- The total in nanoseconds, without what lies below a nanosecond. -/
def totalNanos (l : DurationLiteral) : ℤ := ⌊l.totalSeconds * 10 ^ 9⌋

/-- At most `2 ^ 63 - 1` months, or `2 ^ 63 - 1` milliseconds. -/
def IsBounded (l : DurationLiteral) : Prop :=
  (l.HasMonths → l.totalMonths ≤ 2 ^ 63 - 1) ∧
    (l.HasSeconds → l.totalNanos ≤ (2 ^ 63 - 1) * 10 ^ 6)

def sign (l : DurationLiteral) : ℤ := if l.negative then -1 else 1

/-- The duration is the literal's total, with its sign. -/
def Denotes (l : DurationLiteral) : Duration → Prop
  | .months n => l.HasMonths ∧ (n : ℚ) = l.sign * l.totalMonths
  | .nanos n => l.HasSeconds ∧ n = l.sign * l.totalNanos

end DurationLiteral

/-! ### Amounts -/

/-- The decimal that is read for an amount. -/
def Amount.decimal (a : Amount) : Decimal := .ofParts false a.whole (a.fraction.getD []) 0

lemma value_amountDecimal (a : Amount) : value a.decimal = a.value := by
  have hpow : (10 : ℚ) ^ (a.fraction.getD []).length ≠ 0 := by positivity
  rw [Amount.decimal, Decimal.ofParts, value, sub_zero, zpow_neg, zpow_natCast, Amount.value]
  simp only [Bool.false_eq_true, if_false, toNat_append]
  push_cast
  field_simp

lemma readAmount?_eq_some_iff {cs : List Char} {d : Decimal} :
    readAmount? cs = some d ↔ ∃ a : Amount, a.text = cs ∧ a.decimal = d := by
  constructor
  · intro h
    obtain ⟨⟨whole, fraction⟩, hcut⟩ : ∃ p, p = Text.splitOnce (· == '.') cs := ⟨_, rfl⟩
    rw [readAmount?, ← hcut] at h
    obtain ⟨⟨hwhole, hfraction⟩, h⟩ := Option.ite_none_right_eq_some.mp h
    refine ⟨⟨whole, fraction, hwhole, (Option.all_eq_true _ _).mp hfraction⟩, ?_, Option.some.inj h⟩
    exact (eq_mantissa_of_splitOnce hcut.symm).symm
  · rintro ⟨a, rfl, rfl⟩
    have hfree : ∀ c ∈ a.whole, (c == '.') = false := fun c hc =>
      beq_point_eq_false_of_isDigit ((isNumber_iff.mp a.isNumber_whole).2 c hc)
    have hcut : Text.splitOnce (· == '.') a.text = (a.whole, a.fraction) := by
      unfold Amount.text
      cases a.fraction with
      | none => rw [Numeral.fractionText, List.append_nil, splitOnce_of_forall hfree]
      | some fraction => exact splitOnce_append hfree rfl
    rw [readAmount?, hcut]
    exact if_pos ⟨a.isNumber_whole, (Option.all_eq_true _ _).mpr a.isNumber_fraction⟩

lemma amount_value_nonneg (a : Amount) : 0 ≤ a.value :=
  add_nonneg (Nat.cast_nonneg _) (div_nonneg (Nat.cast_nonneg _) (by positivity))

lemma isWhole_iff (a : Amount) : a.IsWhole ↔ a.decimal.normalize.scale ≤ 0 := by
  have hvalue : value a.decimal.normalize = a.value := by
    rw [value_normalize, value_amountDecimal]
  constructor
  · rintro ⟨n, hn⟩
    exact scale_nonpos_of_value_eq (k := n) (isNormal_normalize _) (by rw [hvalue, hn, Int.cast_natCast])
  · intro h
    have hwhole := value_of_scale_nonpos h
    rw [hvalue] at hwhole
    have hnonneg := amount_value_nonneg a
    rw [hwhole, Int.cast_nonneg_iff] at hnonneg
    obtain ⟨n, hn⟩ := Int.eq_ofNat_of_zero_le hnonneg
    exact ⟨n, by rw [hwhole, hn, Int.cast_natCast]⟩

/-- An amount may stand before a unit if it is whole or the unit is the second. -/
lemma ofText?_eq_some_iff {digits : List Char} {unit : Measure} {c : Component} :
    Component.ofText? digits unit = some c ↔
      ∃ a : Amount, a.text = digits ∧ (unit = .seconds ∨ a.IsWhole) ∧ c = ⟨a.decimal, unit⟩ := by
  rw [Component.ofText?, Option.bind_eq_bind, Option.bind_eq_some_iff]
  constructor
  · rintro ⟨d, hd, h⟩
    obtain ⟨a, rfl, rfl⟩ := readAmount?_eq_some_iff.mp hd
    obtain ⟨hunit, h⟩ := Option.ite_none_right_eq_some.mp h
    rw [← isWhole_iff] at hunit
    exact ⟨a, rfl, hunit, (Option.some.inj h).symm⟩
  · rintro ⟨a, rfl, hunit, rfl⟩
    rw [isWhole_iff] at hunit
    exact ⟨a.decimal, readAmount?_eq_some_iff.mpr ⟨a, rfl, rfl⟩, if_pos hunit⟩

/-! ### Units -/

/-- Whether a unit stands behind the letter `T`. -/
def isOfTime (unit : Measure) : Bool := 4 ≤ unit.rank

lemma ofLetter?_eq_some_iff {inTime : Bool} {letter : Char} {unit : Measure} :
    Measure.ofLetter? inTime letter = some unit ↔ inTime = isOfTime unit ∧ letter = unitLetter unit := by
  constructor
  · intro h
    unfold Measure.ofLetter? at h
    split at h
    case h_7 => exact absurd h (by simp)
    all_goals
      obtain rfl := Option.some.inj h
      exact ⟨rfl, rfl⟩
  · rintro ⟨rfl, rfl⟩
    cases unit <;> rfl

lemma eq_of_rank_eq {a b : Measure} (h : a.rank = b.rank) : a = b := by
  cases a <;> cases b <;> first | rfl | exact absurd h (by decide)

/-! ### Spelling -/

/-- The component that is read for an amount and its unit. -/
def unitComponent (unit : Measure) : Option Amount → List Component
  | some a => [⟨a.decimal, unit⟩]
  | none => []

/-- Whether an amount may stand before a unit. -/
def Fits (unit : Measure) (a? : Option Amount) : Prop := ∀ a ∈ a?, unit = .seconds ∨ a.IsWhole

/-- A unit is spelled before what follows it, or left out. -/
lemma Spells.push (unit : Measure) {a? : Option Amount} (ha : Fits unit a?) {last : ℕ} {cs : List Char}
    {components : List Component} (hlast : last < unit.rank)
    (h : Spells (isOfTime unit) (if a? = none then last else unit.rank) cs components) :
    Spells (isOfTime unit) last (unitText unit a? ++ cs) (unitComponent unit a? ++ components) := by
  cases a? with
  | none => exact h
  | some a =>
    have hread : Component.ofText? a.text unit = some ⟨a.decimal, unit⟩ :=
      ofText?_eq_some_iff.mpr ⟨a, rfl, ha a rfl, rfl⟩
    have hletter : Measure.ofLetter? (isOfTime unit) (unitLetter unit) = some unit :=
      ofLetter?_eq_some_iff.mpr ⟨rfl, rfl⟩
    rw [unitText, List.append_assoc]
    exact .unit hletter hread hlast h

/-- If a unit of the text exceeds a rank, the unit before it may be of that rank. -/
lemma Spells.raise {inTime : Bool} {last rank : ℕ} {cs : List Char} {components : List Component}
    (h : Spells inTime last cs components) (hle : last ≤ rank)
    (hnext : ∀ unit, last < unit.rank → inTime = isOfTime unit ∨ isOfTime unit = true → rank < unit.rank) :
    Spells inTime rank cs components := by
  induction h with
  | done hlast htime => exact .done (by omega) fun ht => (htime ht).trans hle
  | time h ih =>
    refine .time (ih hle fun unit hlast hunit => hnext unit hlast (Or.inr ?_))
    obtain hunit | hunit := hunit
    · exact hunit.symm
    · exact hunit
  | unit hletter hamount hlast h ih =>
    exact .unit hletter hamount (hnext _ hlast (Or.inl (ofLetter?_eq_some_iff.mp hletter).1)) h

/-- The next unit stands at the front of the text, or it is left out. -/
lemma Spells.pop (unit : Measure) {last : ℕ} {cs : List Char} {components : List Component}
    (h : Spells (isOfTime unit) last cs components) (hlast : last + 1 = unit.rank) :
    ∃ a? rest others, Fits unit a? ∧ cs = unitText unit a? ++ rest ∧
      components = unitComponent unit a? ++ others ∧ Spells (isOfTime unit) unit.rank rest others := by
  have hnone : Fits unit none := by simp [Fits]
  generalize hin : isOfTime unit = inTime at h ⊢
  cases h with
  | done hne htime =>
    exact ⟨none, [], [], hnone, rfl, rfl, .done (by omega) fun ht => by have := htime ht; omega⟩
  | @time _ cs _ h =>
    have hdate : unit.rank < 4 := by simpa [isOfTime] using hin
    refine ⟨none, 'T' :: cs, components, hnone, rfl, rfl, .time (h.raise (by omega) ?_)⟩
    intro other _ hother
    have htime : isOfTime other = true := hother.elim Eq.symm id
    have hrank : 4 ≤ other.rank := by simpa [isOfTime] using htime
    omega
  | @unit _ _ letter measure digits cs component others hletter hamount hmeasure h =>
    obtain ⟨hin', rfl⟩ := ofLetter?_eq_some_iff.mp hletter
    obtain ⟨a, rfl, hwhole, rfl⟩ := ofText?_eq_some_iff.mp hamount
    by_cases hunit : measure = unit
    · subst hunit
      refine ⟨some a, cs, others, ?_, ?_, rfl, h⟩
      · intro b hb
        rwa [← Option.some.inj hb]
      · rw [unitText, List.append_assoc]
        rfl
    · have hrank : unit.rank < measure.rank := by
        have hne : measure.rank ≠ unit.rank := fun heq => hunit (eq_of_rank_eq heq)
        omega
      exact ⟨none, _, _, hnone, rfl, rfl, .unit hletter hamount hrank h⟩

lemma Spells.ne_nil {inTime : Bool} {last : ℕ} {cs : List Char} {components : List Component}
    (h : Spells inTime last cs components) (hstart : last = 0 ∨ inTime = true ∧ last < 4) : cs ≠ [] := by
  cases h with
  | done hlast htime =>
    obtain rfl | ⟨ht, hlt⟩ := hstart
    · exact absurd rfl hlast
    · exact absurd (htime ht) (by omega)
  | time h => exact List.cons_ne_nil _ _
  | unit => simp

/-- What follows the letter `T` has hours, minutes and seconds, each of them or not. -/
lemma Spells.exists_time {cs : List Char} {components : List Component}
    (h : Spells true 3 cs components) :
    ∃ hours minutes seconds, (Fits .hours hours ∧ Fits .minutes minutes ∧ Fits .seconds seconds) ∧
      cs = unitText .hours hours ++ (unitText .minutes minutes ++ unitText .seconds seconds) ∧
      components = unitComponent .hours hours ++
        (unitComponent .minutes minutes ++ unitComponent .seconds seconds) := by
  obtain ⟨hours, afterHours, _, hhours, rfl, rfl, h₁⟩ := h.pop .hours rfl
  obtain ⟨minutes, afterMinutes, _, hminutes, rfl, rfl, h₂⟩ := h₁.pop .minutes rfl
  obtain ⟨seconds, rest, _, hseconds, rfl, rfl, h₃⟩ := h₂.pop .seconds rfl
  refine ⟨hours, minutes, seconds, ⟨hhours, hminutes, hseconds⟩, ?_⟩
  cases h₃ with
  | done => simp
  | @unit _ _ _ measure _ _ _ _ _ _ hlast _ =>
    exact absurd hlast (by cases measure <;> decide)

/-- What follows the days is the letter `T` and what follows it, or nothing. -/
lemma Spells.exists_tail {cs : List Char} {components : List Component}
    (h : Spells false 3 cs components) :
    ∃ hours minutes seconds, (Fits .hours hours ∧ Fits .minutes minutes ∧ Fits .seconds seconds) ∧
      cs = marked (unitText .hours hours ++ (unitText .minutes minutes ++ unitText .seconds seconds)) ∧
      components = unitComponent .hours hours ++
        (unitComponent .minutes minutes ++ unitComponent .seconds seconds) := by
  cases h with
  | done => exact ⟨none, none, none, by simp [Fits], rfl, rfl⟩
  | time h =>
    obtain ⟨hours, minutes, seconds, hfits, rfl, hcomponents⟩ := h.exists_time
    have htime := h.ne_nil (Or.inr ⟨rfl, by decide⟩)
    exact ⟨hours, minutes, seconds, hfits, (if_neg htime).symm, hcomponents⟩
  | @unit _ _ _ measure _ _ _ _ hletter _ hlast _ =>
    have hdate := (ofLetter?_eq_some_iff.mp hletter).1
    exact absurd hlast (by cases measure <;> first | decide | exact absurd hdate (by decide))

namespace DurationLiteral

/-- The components that are read for the units that count months. -/
def monthComponents (l : DurationLiteral) : List Component :=
  unitComponent .years (l.amount? .years) ++ unitComponent .months (l.amount? .months)

/-- The components that are read for the other units. -/
def secondComponents (l : DurationLiteral) : List Component :=
  unitComponent .days (l.amount? .days) ++ (unitComponent .hours (l.amount? .hours) ++
    (unitComponent .minutes (l.amount? .minutes) ++ unitComponent .seconds (l.amount? .seconds)))

end DurationLiteral

/-- The units that a text spells are those of a literal. -/
lemma exists_literal_of_spells {cs : List Char} {components : List Component} (negative : Bool)
    (h : Spells false 0 cs components) :
    ∃ l : DurationLiteral, l.negative = negative ∧ l.body = cs ∧
      l.monthComponents ++ l.secondComponents = components := by
  have hne := h.ne_nil (Or.inl rfl)
  obtain ⟨years, afterYears, _, hyears, rfl, rfl, h₁⟩ := h.pop .years rfl
  obtain ⟨months, afterMonths, _, hmonths, rfl, rfl, h₂⟩ := h₁.pop .months rfl
  obtain ⟨days, tail, _, hdays, rfl, rfl, h₃⟩ := h₂.pop .days rfl
  obtain ⟨hours, minutes, seconds, ⟨hhours, hminutes, hseconds⟩, rfl, rfl⟩ := h₃.exists_tail
  let amount? : Measure → Option Amount
    | .years => years
    | .months => months
    | .days => days
    | .hours => hours
    | .minutes => minutes
    | .seconds => seconds
  have hfits : ∀ unit, Fits unit (amount? unit) := by
    intro unit
    cases unit <;> assumption
  have hsome : ∃ unit, amount? unit ≠ none := by
    by_contra hall
    push Not at hall
    obtain rfl : years = none := hall .years
    obtain rfl : months = none := hall .months
    obtain rfl : days = none := hall .days
    obtain rfl : hours = none := hall .hours
    obtain rfl : minutes = none := hall .minutes
    obtain rfl : seconds = none := hall .seconds
    exact hne rfl
  refine ⟨⟨negative, amount?, hsome, hfits⟩, rfl, ?_, ?_⟩
  · simp only [DurationLiteral.body, DurationLiteral.dateText, DurationLiteral.timeText,
      DurationLiteral.part, List.append_assoc]
    rfl
  · simp only [DurationLiteral.monthComponents, DurationLiteral.secondComponents, List.append_assoc]
    rfl

lemma unitText_eq_nil_iff {unit : Measure} {a? : Option Amount} : unitText unit a? = [] ↔ a? = none := by
  cases a? <;> simp [unitText]

namespace DurationLiteral

lemma timeText_eq_nil_iff (l : DurationLiteral) :
    l.timeText = [] ↔ l.amount? .hours = none ∧ l.amount? .minutes = none ∧ l.amount? .seconds = none := by
  simp only [timeText, part, List.append_eq_nil_iff, unitText_eq_nil_iff]

lemma exists_dateUnit (l : DurationLiteral) (h : l.timeText = []) :
    l.amount? .years ≠ none ∨ l.amount? .months ≠ none ∨ l.amount? .days ≠ none := by
  obtain ⟨hhours, hminutes, hseconds⟩ := l.timeText_eq_nil_iff.mp h
  obtain ⟨unit, hunit⟩ := l.some_unit
  cases unit with
  | years => exact Or.inl hunit
  | months => exact Or.inr (Or.inl hunit)
  | days => exact Or.inr (Or.inr hunit)
  | hours => exact absurd hhours hunit
  | minutes => exact absurd hminutes hunit
  | seconds => exact absurd hseconds hunit

lemma spells_timeText (l : DurationLiteral) (h : l.timeText ≠ []) {last : ℕ} (hlast : last < 4) :
    Spells true last l.timeText (unitComponent .hours (l.amount? .hours) ++
      (unitComponent .minutes (l.amount? .minutes) ++ unitComponent .seconds (l.amount? .seconds))) := by
  rw [Ne, timeText_eq_nil_iff] at h
  have hspells : Spells true last
      (unitText .hours (l.amount? .hours) ++ (unitText .minutes (l.amount? .minutes) ++
        (unitText .seconds (l.amount? .seconds) ++ [])))
      (unitComponent .hours (l.amount? .hours) ++ (unitComponent .minutes (l.amount? .minutes) ++
        (unitComponent .seconds (l.amount? .seconds) ++ []))) := by
    refine Spells.push .hours (l.isWhole _) hlast (Spells.push .minutes (l.isWhole _) ?_
      (Spells.push .seconds (l.isWhole _) ?_ (.done ?_ fun _ => ?_)))
    all_goals simp only [Measure.rank]; split_ifs <;> first | omega | tauto
  rwa [List.append_nil, List.append_nil] at hspells

lemma spells_marked (l : DurationLiteral) {last : ℕ} (hlast : last < 4) (h : l.timeText = [] → last ≠ 0) :
    Spells false last (marked l.timeText) (unitComponent .hours (l.amount? .hours) ++
      (unitComponent .minutes (l.amount? .minutes) ++ unitComponent .seconds (l.amount? .seconds))) := by
  by_cases htime : l.timeText = []
  · obtain ⟨hhours, hminutes, hseconds⟩ := l.timeText_eq_nil_iff.mp htime
    rw [marked, if_pos htime, hhours, hminutes, hseconds]
    exact .done (h htime) (by simp)
  · rw [marked, if_neg htime]
    exact .time (l.spells_timeText htime hlast)

lemma spells_body (l : DurationLiteral) :
    Spells false 0 l.body (l.monthComponents ++ l.secondComponents) := by
  rw [body, dateText, monthComponents, secondComponents, List.append_assoc, List.append_assoc,
    List.append_assoc]
  refine Spells.push .years (l.isWhole _) (by decide) (Spells.push .months (l.isWhole _) ?_
    (Spells.push .days (l.isWhole _) ?_ (l.spells_marked ?_ fun htime => ?_)))
  case refine_4 =>
    have hdate := l.exists_dateUnit htime
    simp only [Measure.rank]
    split_ifs <;> first | omega | tauto
  all_goals simp only [Measure.rank]; split_ifs <;> omega

end DurationLiteral

/-- The reader gives the sign and the components of a literal, and of nothing else. -/
lemma readLiteral?_eq_some_iff_literal {cs : List Char} {negative : Bool} {components : List Component} :
    readLiteral? cs = some (negative, components) ↔
      ∃ l : DurationLiteral, l.text = cs ∧ l.negative = negative ∧
        l.monthComponents ++ l.secondComponents = components := by
  rw [readLiteral?_eq_some_iff]
  constructor
  · rintro ⟨body, rfl, hspells⟩
    obtain ⟨l, rfl, rfl, hcomponents⟩ := exists_literal_of_spells negative hspells
    exact ⟨l, rfl, rfl, hcomponents⟩
  · rintro ⟨l, rfl, rfl, rfl⟩
    exact ⟨l.body, rfl, l.spells_body⟩

end Feel.Proofs
