import Feel.Calendar.Duration.Literal
import Feel.Proofs.PlainText
import Feel.Proofs.Provenance
import Feel.Proofs.WholeDecimals

/-!
# Duration literals

The reader of duration literals accepts the texts that spell components in the order of their units.
The duration is the sum of the components, and it keeps the bounds of durations on both sides, because
no amount is negative.
-/

namespace Feel.Proofs
open Duration Text

/-! ### Spelling -/

/-- The text spells the components. `last` is the rank of the unit before it, and `inTime` says whether
the letter `T` stood before it. -/
inductive Spells : (inTime : Bool) → (last : ℕ) → List Char → List Component → Prop
  | done {inTime : Bool} {last : ℕ} (hlast : last ≠ 0) (htime : inTime = true → 4 ≤ last) :
      Spells inTime last [] []
  | time {last : ℕ} {cs : List Char} {components : List Component} (h : Spells true last cs components) :
      Spells false last ('T' :: cs) components
  | unit {inTime : Bool} {last : ℕ} {letter : Char} {measure : Measure} {digits cs : List Char}
      {component : Component} {components : List Component}
      (hletter : Measure.ofLetter? inTime letter = some measure)
      (hamount : Component.ofText? digits measure = some component) (hlast : last < measure.rank)
      (h : Spells inTime measure.rank cs components) :
      Spells inTime last (digits ++ letter :: cs) (component :: components)

lemma spells_of_readComponents? {inTime : Bool} {last : ℕ} {amount cs : List Char}
    {components : List Component} (h : readComponents? inTime last amount cs = some components) :
    Spells inTime last (amount.reverse ++ cs) components := by
  fun_induction readComponents? inTime last amount cs generalizing components with
  | case1 inTime last amount hend =>
    obtain ⟨hempty, hlast, htime⟩ := hend
    rw [List.isEmpty_iff.mp hempty, ← Option.some.inj h]
    exact .done hlast htime
  | case2 => exact absurd h (by simp)
  | case3 inTime last amount c cs hc ih =>
    have hspells := ih h
    rwa [List.reverse_cons, List.append_assoc, List.singleton_append] at hspells
  | case4 => exact absurd h (by simp)
  | case5 inTime last amount c cs hc hT hplace ih =>
    obtain ⟨hin, hempty⟩ := Bool.or_eq_false_iff.mp (Bool.eq_false_iff.mpr hplace)
    obtain rfl := eq_of_beq hT
    obtain rfl := hin
    obtain rfl := List.isEmpty_iff.mp (Bool.not_eq_false' .. ▸ hempty)
    exact .time (ih h)
  | case6 inTime last amount c cs hc hT ih =>
    simp only [Option.bind_eq_bind, Option.bind_eq_some_iff] at h
    obtain ⟨measure, hletter, component, hamount, h⟩ := h
    split_ifs at h with hlast
    obtain ⟨rest, hrest, h⟩ := Option.bind_eq_some_iff.mp h
    rw [← Option.some.inj h]
    exact .unit hletter hamount (not_le.mp hlast) (ih measure hrest)

/-- Digits and points. -/
def IsAmountText (cs : List Char) : Prop := ∀ c ∈ cs, c.isDigit = true ∨ c = '.'

lemma isAmountText_of_readAmount? {cs : List Char} {a : Decimal} (h : readAmount? cs = some a) :
    IsAmountText cs := by
  obtain ⟨⟨whole, fraction⟩, hcut⟩ : ∃ p, p = splitOnce (· == '.') cs := ⟨_, rfl⟩
  rw [readAmount?, ← hcut] at h
  obtain ⟨⟨hwhole, hfraction⟩, -⟩ := Option.ite_none_right_eq_some.mp h
  have hwhole := (isNumber_iff.mp hwhole).2
  cases fraction with
  | none =>
    rw [eq_of_splitOnce_none hcut.symm]
    exact fun c hc => Or.inl (hwhole c hc)
  | some fraction =>
    obtain ⟨point, hpoint, rfl⟩ := eq_append_of_splitOnce hcut.symm
    intro c hc
    obtain hc | hc := List.mem_append.mp hc
    · exact Or.inl (hwhole c hc)
    · obtain rfl | hc := List.mem_cons.mp hc
      · exact Or.inr (eq_of_beq hpoint)
      · exact Or.inl ((isNumber_iff.mp hfraction).2 c hc)

lemma readAmount?_of_ofText? {digits : List Char} {measure : Measure} {component : Component}
    (h : Component.ofText? digits measure = some component) :
    readAmount? digits = some component.amount ∧ component.measure = measure := by
  unfold Component.ofText? at h
  simp only [Option.bind_eq_bind, Option.bind_eq_some_iff] at h
  obtain ⟨amount, hread, h⟩ := h
  obtain ⟨-, h⟩ := Option.ite_none_right_eq_some.mp h
  obtain rfl := Option.some.inj h
  exact ⟨hread, rfl⟩

lemma readComponents?_append {digits : List Char} (h : IsAmountText digits) (inTime : Bool) (last : ℕ)
    (amount cs : List Char) :
    readComponents? inTime last amount (digits ++ cs) =
      readComponents? inTime last (digits.reverse ++ amount) cs := by
  induction digits generalizing amount with
  | nil => rfl
  | cons c digits ih =>
    have hc : (c.isDigit || c == '.') = true := by
      rw [Bool.or_eq_true, beq_iff_eq]
      exact h c List.mem_cons_self
    rw [List.cons_append, readComponents?, if_pos hc, ih fun x hx => h x (List.mem_cons_of_mem c hx),
      List.reverse_cons, List.append_assoc, List.singleton_append]

lemma letter_of_ofLetter? {inTime : Bool} {letter : Char} {measure : Measure}
    (h : Measure.ofLetter? inTime letter = some measure) :
    ¬(letter.isDigit || letter == '.') = true ∧ ¬(letter == 'T') = true ∧ isBlank letter = false := by
  unfold Measure.ofLetter? at h
  split at h
  case h_7 => exact absurd h (by simp)
  all_goals exact ⟨by decide, by decide, by decide⟩

/-- The reader gives the components that a text spells. -/
theorem readComponents?_eq_some_iff {inTime : Bool} {last : ℕ} {cs : List Char}
    {components : List Component} :
    readComponents? inTime last [] cs = some components ↔ Spells inTime last cs components := by
  constructor
  · exact spells_of_readComponents?
  · intro h
    induction h with
    | done hlast htime =>
      rw [readComponents?, if_pos ⟨rfl, hlast, htime⟩]
    | time h ih =>
      rw [readComponents?]
      exact ih
    | @unit inTime last letter measure digits cs component components hletter hamount hlast h ih =>
      have hdigits := isAmountText_of_readAmount? (readAmount?_of_ofText? hamount).1
      obtain ⟨hc, hT, -⟩ := letter_of_ofLetter? hletter
      rw [readComponents?_append hdigits, readComponents?, if_neg hc, if_neg hT, List.append_nil,
        List.reverse_reverse]
      simp only [hletter, hamount, ih, Option.bind_eq_bind, Option.bind_some, if_neg (not_le.mpr hlast)]
      rfl

/-- No amount that is read is negative. -/
lemma digits_nonneg_of_readAmount? {cs : List Char} {a : Decimal} (h : readAmount? cs = some a) :
    0 ≤ a.digits := by
  unfold readAmount? at h
  obtain ⟨-, h⟩ := Option.ite_none_right_eq_some.mp h
  rw [← Option.some.inj h]
  exact Int.natCast_nonneg _

lemma Spells.amounts_nonneg {inTime : Bool} {last : ℕ} {cs : List Char} {components : List Component}
    (h : Spells inTime last cs components) : ∀ c ∈ components, 0 ≤ value c.amount := by
  induction h with
  | done => simp
  | time h ih => exact ih
  | unit hletter hamount hlast h ih =>
    refine List.forall_mem_cons.mpr ⟨?_, ih⟩
    exact value_nonneg_iff.mpr (digits_nonneg_of_readAmount? (readAmount?_of_ofText? hamount).1)

lemma Spells.not_isBlank {inTime : Bool} {last : ℕ} {cs : List Char} {components : List Component}
    (h : Spells inTime last cs components) : ∀ c ∈ cs, isBlank c = false := by
  induction h with
  | done => simp
  | time h ih => exact List.forall_mem_cons.mpr ⟨by decide, ih⟩
  | unit hletter hamount hlast h ih =>
    refine List.forall_mem_append.mpr ⟨fun c hc => ?_, List.forall_mem_cons.mpr ⟨?_, ih⟩⟩
    · obtain hd | rfl := isAmountText_of_readAmount? (readAmount?_of_ofText? hamount).1 c hc
      · exact not_isBlank_of_isDigit hd
      · decide
    · exact (letter_of_ofLetter? hletter).2.2

/-! ### Sums of components -/

/-- The sum of the components, in the months or the seconds that their units have. -/
def weight (components : List Component) : ℚ :=
  (components.map fun c => value c.amount * c.measure.factor).sum

lemma value_scaled (c : Component) : value c.scaled = value c.amount * c.measure.factor := by
  rw [Component.scaled]
  split_ifs with hone
  · rw [same_iff.mp hone, value_ofInt, value_ofInt, Int.cast_one, one_mul, Int.cast_natCast]
  · rw [value_mul, value_ofInt, Int.cast_natCast]

lemma value_total (components : List Component) : value (total components) = weight components := by
  have hfold (sum : Decimal) : value (components.foldl
      (fun sum c => if c.amount.isZero then sum else sum.add c.scaled) sum) =
      value sum + weight components := by
    induction components generalizing sum with
    | nil => rw [List.foldl_nil, weight, List.map_nil, List.sum_nil, add_zero]
    | cons c components ih =>
      rw [List.foldl_cons, ih, weight, weight, List.map_cons, List.sum_cons, ← add_assoc]
      congr 1
      split_ifs with hzero
      · rw [value_eq_zero.mpr (eq_of_beq hzero), zero_mul, add_zero]
      · rw [value_add, value_scaled]
  rw [total, hfold, value_zero, zero_add]

lemma weight_nonneg {components : List Component} (h : ∀ c ∈ components, 0 ≤ value c.amount) :
    0 ≤ weight components := by
  refine List.sum_nonneg fun x hx => ?_
  obtain ⟨c, hc, rfl⟩ := List.mem_map.mp hx
  exact mul_nonneg (h c hc) (Nat.cast_nonneg _)

/-! ### Components of one kind -/

lemma ofComponents_of_calendar (text : String) {components : List Component}
    (h : ∀ c ∈ components, c.measure.isCalendar = true) :
    ofComponents text components = (total components).word.map .months := by
  have hcalendar : components.filter (fun c => c.measure.isCalendar) = components :=
    List.filter_eq_self.mpr h
  have hclock : components.filter (not ∘ fun c => c.measure.isCalendar) = [] :=
    List.filter_eq_nil_iff.mpr fun c hc => by simp [h c hc]
  rw [ofComponents, List.partition_eq_filter_filter, hcalendar, hclock]
  rfl

lemma ofComponents_of_clock (text : String) {components : List Component} (hne : components ≠ [])
    (h : ∀ c ∈ components, c.measure.isCalendar = false) :
    ofComponents text components = ofSeconds (total components) := by
  have hcalendar : components.filter (fun c => c.measure.isCalendar) = [] :=
    List.filter_eq_nil_iff.mpr fun c hc => by simp [h c hc]
  have hclock : components.filter (not ∘ fun c => c.measure.isCalendar) = components :=
    List.filter_eq_self.mpr fun c hc => by simp [h c hc]
  rw [ofComponents, List.partition_eq_filter_filter, hcalendar, hclock]
  exact if_neg (List.isEmpty_iff.not.mpr hne)

lemma word_rescale_seconds {d : Decimal} (h : 0 ≤ value d) :
    (d.rescale 0 .towardZero).word =
      if ⌊value d⌋ ≤ Word.max64 then .ok ⌊value d⌋ else .error (.outOfRange (.ofInt ⌊value d⌋)) := by
  have hself : d.rescale 0 .towardZero = .ofInt ⌊value d⌋ := by
    rw [rescale_eq, digits_rescale_towardZero h, zpow_zero, mul_one]
    rfl
  have hnonneg : 0 ≤ ⌊value d⌋ := Int.floor_nonneg.mpr h
  rw [hself]
  split_ifs with hle
  · rw [word_eq_ok_iff, value_ofInt]
    exact ⟨rfl, by omega, hle⟩
  · exact whole_eq_error (by decide) (by decide) (value_ofInt _) (by omega)

/-- Seconds are cut below a nanosecond. -/
lemma ofSeconds_eq_ok {d : Decimal} (h : 0 ≤ value d) (hn : ⌊value d * 10 ^ 9⌋ ≤ maxNanos) :
    ofSeconds d = .ok (.nanos ⌊value d * 10 ^ 9⌋) := by
  have hseconds : ⌊value d⌋ ≤ Word.max64 := by
    have hle : ⌊value d⌋ * 10 ^ 9 ≤ (maxNanos : ℤ) := by
      refine le_trans (Int.le_floor.mpr ?_) hn
      push_cast
      exact mul_le_mul_of_nonneg_right (Int.floor_le _) (by positivity)
    unfold maxNanos at hle
    omega
  have hcount : (d.rescale 9 .towardZero).digits = ⌊value d * 10 ^ 9⌋ := digits_rescale_towardZero h 9
  have hnonneg : 0 ≤ ⌊value d * 10 ^ 9⌋ := Int.floor_nonneg.mpr (by positivity)
  have hbound : (⌊value d * 10 ^ 9⌋).natAbs ≤ maxNanos := by omega
  rw [ofSeconds]
  simp only [word_rescale_seconds h, if_pos hseconds, hcount, if_pos hbound]
  rfl

lemma ofSeconds_eq_error {d : Decimal} (h : 0 ≤ value d) (hn : (maxNanos : ℤ) < ⌊value d * 10 ^ 9⌋) :
    ofSeconds d = .error .overflow ∨ ∃ n, ofSeconds d = .error (.outOfRange n) := by
  have hcount : (d.rescale 9 .towardZero).digits = ⌊value d * 10 ^ 9⌋ := digits_rescale_towardZero h 9
  have hbound : ¬(⌊value d * 10 ^ 9⌋).natAbs ≤ maxNanos := by omega
  rw [ofSeconds]
  simp only [word_rescale_seconds h, hcount, if_neg hbound]
  by_cases hseconds : ⌊value d⌋ ≤ Word.max64
  · rw [if_pos hseconds]
    exact Or.inl rfl
  · rw [if_neg hseconds]
    exact Or.inr ⟨_, rfl⟩

/-! ### Literals -/

/-- The letter `P` after an optional minus. -/
def periodMark (negative : Bool) : List Char := if negative then ['-', 'P'] else ['P']

/-- A literal is the mark of a period and a text that spells its components. -/
lemma readLiteral?_eq_some_iff {cs : List Char} {negative : Bool} {components : List Component} :
    readLiteral? cs = some (negative, components) ↔
      ∃ body, cs = periodMark negative ++ body ∧ Spells false 0 body components := by
  have hread {body : List Char} {mark : Bool} :
      (readComponents? false 0 [] body).map (mark, ·) = some (negative, components) ↔
        mark = negative ∧ Spells false 0 body components := by
    rw [Option.map_eq_some_iff, ← readComponents?_eq_some_iff]
    constructor
    · rintro ⟨read, hread, heq⟩
      obtain ⟨rfl, rfl⟩ := Prod.mk.inj heq
      exact ⟨rfl, hread⟩
    · rintro ⟨rfl, hread⟩
      exact ⟨components, hread, rfl⟩
  constructor
  · intro h
    unfold readLiteral? at h
    split at h
    · obtain ⟨rfl, hspells⟩ := hread.mp h
      exact ⟨_, rfl, hspells⟩
    · obtain ⟨rfl, hspells⟩ := hread.mp h
      exact ⟨_, rfl, hspells⟩
    · exact absurd h (by simp)
  · rintro ⟨body, rfl, hspells⟩
    cases negative with
    | false => exact hread.mpr ⟨rfl, hspells⟩
    | true => exact hread.mpr ⟨rfl, hspells⟩

lemma not_isBlank_of_readLiteral? {cs : List Char} {negative : Bool} {components : List Component}
    (h : readLiteral? cs = some (negative, components)) : ∀ c ∈ cs, isBlank c = false := by
  obtain ⟨body, rfl, hspells⟩ := readLiteral?_eq_some_iff.mp h
  have hmark : ∀ c ∈ ['P'], isBlank c = false := List.forall_mem_singleton.mpr (by decide)
  refine List.forall_mem_append.mpr ⟨?_, hspells.not_isBlank⟩
  cases negative with
  | false => exact hmark
  | true => exact List.forall_mem_cons.mpr ⟨by decide, hmark⟩

/-! ### Bounds -/

lemma yields_ofSeconds (seconds : Decimal) : Yields Duration.InRange (ofSeconds seconds) := by
  simp only [ofSeconds, yields_bind, yields_ite, yields_ok, yields_error]
  exact fun _ _ => ⟨fun hcount => hcount, fun _ => trivial⟩

lemma yields_ofComponents (text : String) {components : List Component}
    (h : ∀ c ∈ components, 0 ≤ value c.amount) :
    Yields Duration.InRange (ofComponents text components) := by
  unfold ofComponents
  rw [List.partition_eq_filter_filter]
  dsimp only
  split_ifs
  · rw [yields_map]
    intro n hn
    obtain ⟨hvalue, -, hle⟩ := (word_eq_ok_iff _ _).mp hn
    rw [value_total] at hvalue
    have hnonneg : (0 : ℚ) ≤ n := by
      rw [← hvalue]
      exact weight_nonneg fun c hc => h c (List.mem_of_mem_filter hc)
    rw [Int.cast_nonneg_iff] at hnonneg
    show n.natAbs ≤ Word.max64
    omega
  · exact yields_ofSeconds _
  · exact yields_error _

lemma inRange_negate {d : Duration} (h : d.InRange) : d.negate.InRange := by
  cases d with
  | months n => exact (Int.natAbs_neg n).trans_le h
  | nanos n => exact (Int.natAbs_neg n).trans_le h

/-- Every duration that is read keeps the bounds of durations. -/
lemma yields_durationParse (text : String) : Yields Duration.InRange (Duration.parse text) := by
  unfold Duration.parse
  split
  · exact yields_error _
  · rename_i negative components hread
    obtain ⟨body, -, hspells⟩ := readLiteral?_eq_some_iff.mp hread
    rw [yields_map]
    intro d hd
    have hrange := yields_ofComponents text hspells.amounts_nonneg d hd
    split_ifs
    · exact inRange_negate hrange
    · exact hrange

end Feel.Proofs
