import Feel.Builtin
import Feel.Proofs.WholeDecimals

/-!
# Components of durations

The components of a duration are cut toward zero one after the other. Together they make up the duration,
each of them within its bounds and none against its sign. All of them are odd functions of the duration, so
that a duration toward the past has the negated components of the one toward the future.
-/

namespace Feel.Proofs

/-! ### Parts of a number of nanoseconds -/

/-- Zero, or of the sign of the other number. -/
def HasSignOf {α : Type} [Zero α] [LT α] (x y : α) : Prop := (0 < x → 0 < y) ∧ (x < 0 → y < 0)

/-- Days, hours, minutes and the nanoseconds beyond them that make up a number of nanoseconds. -/
structure MakesUp (n days hours minutes rest : ℤ) : Prop where
  sum : (days * 86400 + hours * 3600 + minutes * 60) * nanosPerSecond + rest = n
  hours_lt : |hours| < 24
  minutes_lt : |minutes| < 60
  rest_lt : |rest| < 60 * nanosPerSecond
  signs : HasSignOf days n ∧ HasSignOf hours n ∧ HasSignOf minutes n ∧ HasSignOf rest n

lemma HasSignOf.neg {x y : ℤ} (h : HasSignOf x y) : HasSignOf (-x) (-y) := by
  unfold HasSignOf at *
  omega

lemma MakesUp.neg {n days hours minutes rest : ℤ} (h : MakesUp n days hours minutes rest) :
    MakesUp (-n) (-days) (-hours) (-minutes) (-rest) where
  sum := by
    rw [← h.sum]
    ring
  hours_lt := by rw [abs_neg]; exact h.hours_lt
  minutes_lt := by rw [abs_neg]; exact h.minutes_lt
  rest_lt := by rw [abs_neg]; exact h.rest_lt
  signs := ⟨h.signs.1.neg, h.signs.2.1.neg, h.signs.2.2.1.neg, h.signs.2.2.2.neg⟩

/-- Quotients and remainders of a number that is not negative are not negative either. -/
lemma makesUp_of_nonneg {n : ℤ} (h : 0 ≤ n) :
    MakesUp n ((n.tdiv nanosPerSecond).tdiv secondsPerDay) (((n.tdiv nanosPerSecond).tdiv 3600).tmod 24)
      (((n.tdiv nanosPerSecond).tdiv 60).tmod 60) (n.tmod (60 * nanosPerSecond)) := by
  have hseconds : 0 ≤ n / nanosPerSecond := Int.ediv_nonneg h (by decide)
  rw [Int.tdiv_eq_ediv_of_nonneg h, Int.tdiv_eq_ediv_of_nonneg hseconds,
    Int.tdiv_eq_ediv_of_nonneg hseconds, Int.tdiv_eq_ediv_of_nonneg hseconds,
    Int.tmod_eq_emod_of_nonneg (Int.ediv_nonneg hseconds (by decide)),
    Int.tmod_eq_emod_of_nonneg (Int.ediv_nonneg hseconds (by decide)), Int.tmod_eq_emod_of_nonneg h]
  unfold nanosPerSecond secondsPerDay
  have hsum : (n / 1000000000 / 86400 * 86400 + n / 1000000000 / 3600 % 24 * 3600 +
      n / 1000000000 / 60 % 60 * 60) * 1000000000 + n % (60 * 1000000000) = n := by
    omega
  refine ⟨hsum, ?_, ?_, ?_, ?_⟩
  · rw [abs_lt]
    omega
  · rw [abs_lt]
    omega
  · rw [abs_lt, nanosPerSecond]
    omega
  · unfold HasSignOf
    omega

/-- Cutting toward zero is odd, so that parts of a negative number are the negated ones. -/
lemma makesUp (n : ℤ) :
    MakesUp n ((n.tdiv nanosPerSecond).tdiv secondsPerDay) (((n.tdiv nanosPerSecond).tdiv 3600).tmod 24)
      (((n.tdiv nanosPerSecond).tdiv 60).tmod 60) (n.tmod (60 * nanosPerSecond)) := by
  obtain h | h := le_total 0 n
  · exact makesUp_of_nonneg h
  · have hback := (makesUp_of_nonneg (neg_nonneg.mpr h)).neg
    simpa only [Int.neg_tdiv, Int.neg_tmod, neg_neg] using hback

/-! ### Seconds -/

/-- Seconds with their fraction are the nanoseconds at the ninth place. -/
lemma value_signedNanos (n : ℤ) : value ⟨n, 9⟩ = n / 10 ^ 9 := by
  rw [value, div_eq_mul_inv, zpow_neg]
  rfl

section Seconds

variable {n days hours minutes rest : ℤ} (h : MakesUp n days hours minutes rest)

include h

lemma MakesUp.sum_seconds :
    (days * 86400 + hours * 3600 + minutes * 60 + rest / 10 ^ 9 : ℚ) = n / 10 ^ 9 := by
  rw [← h.sum, nanosPerSecond]
  push_cast
  ring

lemma MakesUp.seconds_lt : |(rest / 10 ^ 9 : ℚ)| < 60 := by
  have hlt : (|rest| : ℚ) < (60 * nanosPerSecond : ℤ) := by exact_mod_cast h.rest_lt
  rw [nanosPerSecond] at hlt
  push_cast at hlt
  rw [abs_div, abs_of_pos (by norm_num : (0 : ℚ) < 10 ^ 9), div_lt_iff₀ (by norm_num)]
  linarith

lemma MakesUp.sign_seconds : HasSignOf (rest / 10 ^ 9 : ℚ) n := by
  have hpos : (0 : ℚ) < 10 ^ 9 := by norm_num
  unfold HasSignOf
  rw [div_pos_iff_of_pos_right hpos, div_lt_iff₀ hpos, zero_mul]
  exact_mod_cast h.signs.2.2.2

end Seconds

/-! ### What the functions give -/

/-- The number that a function gives for a duration; there is none if it gives null. -/
def Gives [Zones] (f : Builtin) (d : Duration) : Option ℚ → Prop
  | none => f.run [.duration d] = .ok .null
  | some x => ∃ n, f.run [.duration d] = .ok (.number n) ∧ value n = x

def timeFunctions : List Builtin := [.days, .hours, .minutes, .seconds]

def monthFunctions : List Builtin := [.years, .months]

section Part

variable [Zones] {α : Type} {part : Duration → Option α} {make : α → Decimal} {f : Builtin}
  (hrun : f.run = Operation.component fun d => (part d).map fun a => .number (make a))

include hrun

/-- A function of a component gives the number that is made of it. -/
lemma gives_iff {d : Duration} {x : Option ℚ} : Gives f d x ↔ x = (part d).map fun a => value (make a) := by
  have hanswer : f.run [.duration d] = .ok (((part d).map fun a => .number (make a)).getD .null) := by
    rw [hrun]
    rfl
  cases hpart : part d with
  | none =>
    rw [hpart] at hanswer
    cases x with
    | none => exact iff_of_true hanswer rfl
    | some x => simp [Gives, hanswer]
  | some a =>
    rw [hpart] at hanswer
    cases x with
    | none => simp [Gives, hanswer]
    | some x => simp [Gives, hanswer, eq_comm]

variable (part make) in
/-- A function of an odd component gives the negated number for the negated duration. -/
lemma gives_negate
    (hodd : ∀ d, ((part d.negate).map fun a => value (make a)) = (part d).map fun a => -value (make a))
    {d : Duration} {x : Option ℚ} (h : Gives f d x) : Gives f d.negate (x.map (-·)) := by
  rw [gives_iff hrun] at *
  rw [h, hodd, Option.map_map]
  rfl

end Part

lemma negate_negate (d : Duration) : d.negate.negate = d := by
  cases d <;> simp [Duration.negate]

/-- Every function of a component is odd. -/
lemma Gives.negate [Zones] {f : Builtin} (hf : f ∈ monthFunctions ++ timeFunctions) {d : Duration}
    {x : Option ℚ} (h : Gives f d x) : Gives f d.negate (x.map (-·)) := by
  simp only [monthFunctions, timeFunctions, List.cons_append, List.nil_append, List.mem_cons,
    List.not_mem_nil, or_false] at hf
  obtain rfl | rfl | rfl | rfl | rfl | rfl := hf
  · refine gives_negate Duration.yearPart? .ofInt rfl (fun d => ?_) h
    cases d <;> simp [Duration.negate, Duration.yearPart?, Int.neg_tdiv]
  · refine gives_negate Duration.monthPart? .ofInt rfl (fun d => ?_) h
    cases d <;> simp [Duration.negate, Duration.monthPart?, Int.neg_tmod]
  · refine gives_negate Duration.dayPart? .ofInt rfl (fun d => ?_) h
    cases d <;> simp [Duration.negate, Duration.dayPart?, Duration.wholeSeconds?, Int.neg_tdiv]
  · refine gives_negate Duration.hourPart? .ofInt rfl (fun d => ?_) h
    cases d <;>
      simp [Duration.negate, Duration.hourPart?, Duration.wholeSeconds?, Int.neg_tdiv, Int.neg_tmod]
  · refine gives_negate Duration.minutePart? .ofInt rfl (fun d => ?_) h
    cases d <;>
      simp [Duration.negate, Duration.minutePart?, Duration.wholeSeconds?, Int.neg_tdiv, Int.neg_tmod]
  · refine gives_negate Duration.secondPart? Decimal.normalize rfl (fun d => ?_) h
    cases d <;> simp [Duration.negate, Duration.secondPart?, Int.neg_tmod, value_signedNanos, neg_div]

/-- For a number of nanoseconds, the days, hours, minutes and seconds are within their bounds, have its sign
and make it up. For a number of months the years and months do. Components of the other kind are null, and
a negated duration has the negated components. -/
theorem components_make_up [Zones] :
    (∀ n : ℤ, ∃ (days hours minutes : ℤ) (seconds : ℚ),
        Gives .days (.nanos n) (some days) ∧ Gives .hours (.nanos n) (some hours) ∧
        Gives .minutes (.nanos n) (some minutes) ∧ Gives .seconds (.nanos n) (some seconds) ∧
        (days * 86400 + hours * 3600 + minutes * 60 + seconds : ℚ) = n / 10 ^ 9 ∧
        |hours| < 24 ∧ |minutes| < 60 ∧ |seconds| < 60 ∧
        HasSignOf days n ∧ HasSignOf hours n ∧ HasSignOf minutes n ∧ HasSignOf seconds n ∧
        ∀ f ∈ monthFunctions, Gives f (.nanos n) none) ∧
      (∀ n : ℤ, ∃ years months : ℤ,
        Gives .years (.months n) (some years) ∧ Gives .months (.months n) (some months) ∧
        12 * years + months = n ∧ |months| < 12 ∧ HasSignOf years n ∧ HasSignOf months n ∧
        ∀ f ∈ timeFunctions, Gives f (.months n) none) ∧
      ∀ d : Duration, d.negate.negate = d ∧
        ∀ f ∈ monthFunctions ++ timeFunctions, ∀ x, Gives f d x → Gives f d.negate (x.map (-·)) := by
  refine ⟨fun n => ?_, fun n => ?_, fun d => ⟨negate_negate d, fun f hf x => Gives.negate hf⟩⟩
  · have hparts := makesUp n
    have hseconds := value_signedNanos (n.tmod (60 * nanosPerSecond))
    refine ⟨_, _, _, _, ⟨_, rfl, value_ofInt _⟩, ⟨_, rfl, value_ofInt _⟩, ⟨_, rfl, value_ofInt _⟩,
      ⟨_, rfl, by rw [value_normalize, value_normalize, hseconds]⟩, hparts.sum_seconds, hparts.hours_lt,
      hparts.minutes_lt, hparts.seconds_lt, hparts.signs.1, hparts.signs.2.1, hparts.signs.2.2.1,
      hparts.sign_seconds, ?_⟩
    rw [monthFunctions, List.forall_mem_cons, List.forall_mem_singleton]
    exact ⟨rfl, rfl⟩
  · refine ⟨_, _, ⟨_, rfl, value_ofInt _⟩, ⟨_, rfl, value_ofInt _⟩, Int.mul_tdiv_add_tmod n 12,
      ?_, ?_, ?_, ?_⟩
    · rw [abs_lt]
      grind
    · unfold HasSignOf
      grind
    · unfold HasSignOf
      grind
    · rw [timeFunctions, List.forall_mem_cons, List.forall_mem_cons, List.forall_mem_cons,
        List.forall_mem_singleton]
      exact ⟨rfl, rfl, rfl, rfl⟩

/-- A minute and half a second toward the past. -/
theorem components_make_up_back :
    let d : Duration := .nanos (-60500000000)
    Gives .hours d (some 0) ∧ Gives .minutes d (some (-1)) ∧ Gives .seconds d (some (-(1 / 2))) ∧
      Gives .months d none ∧ Gives .minutes d.negate (some 1) ∧ Gives .seconds d.negate (some (1 / 2)) := by
  intro d
  have hhours : Gives .hours d (some 0) := ⟨_, rfl, by decide +kernel⟩
  have hminutes : Gives .minutes d (some (-1)) := ⟨_, rfl, by decide +kernel⟩
  have hseconds : Gives .seconds d (some (-(1 / 2))) := ⟨_, rfl, by decide +kernel⟩
  obtain ⟨-, hodd⟩ := components_make_up.2.2 d
  have hminutes' := hodd .minutes (by decide) _ hminutes
  have hseconds' := hodd .seconds (by decide) _ hseconds
  rw [Option.map_some, neg_neg] at hminutes' hseconds'
  exact ⟨hhours, hminutes, hseconds, rfl, hminutes', hseconds'⟩

end Feel.Proofs
