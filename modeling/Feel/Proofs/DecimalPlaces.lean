import Feel.Proofs.NearestDecimals
import Feel.Proofs.SessionBounds

/-!
# Rounding at a place

A held number rounded to a number of decimals is the nearest multiple of the last decimal, the even one of
two that are equally near. No further rounding follows, because a held number and its neighbouring
multiples have few digits. Numbers of decimals are cut to a range that the exponents of held numbers
suggest. The cut is one power of ten too narrow at its lower end: numbers near the upper end of their range
are then rounded to a power of ten that is out of range, where zero is nearest.
-/

namespace Feel.Proofs

/-- The second number is the multiple of `10 ^ (-scale)` that is nearest to the first, the even one of two
that are equally near. -/
def IsNearestMultiple (scale : ℤ) (x y : ℚ) : Prop :=
  ∃ m : ℤ, RoundsToEven (x * 10 ^ scale) m ∧ y = m * (10 : ℚ) ^ (-scale)

/-- The place is beyond the cut, and the number exceeds half of the unit at the cut. -/
def IsCutShort (scale : ℤ) (x : ℚ) : Prop := scale < -6145 ∧ (10 : ℚ) ^ (6145 : ℤ) < 2 * |x|

/-- The outcome is this number in normal form if the number is in range, and an overflow else. -/
structure Delivers (outcome : Except Fault Value) (x : ℚ) : Prop where
  ok_of_inRange : InRange x → ∃ r, outcome = .ok (.number r) ∧ value r = x ∧ IsNormal r
  overflow_of_not_inRange : ¬InRange x → outcome = .error .overflow

/-! ### Nearest multiples -/

lemma IsNearestMultiple.unique {s : ℤ} {x y z : ℚ} (hy : IsNearestMultiple s x y)
    (hz : IsNearestMultiple s x z) : y = z := by
  obtain ⟨m, hm, rfl⟩ := hy
  obtain ⟨k, hk, rfl⟩ := hz
  rw [hm.unique hk]

lemma existsUnique_isNearestMultiple (s : ℤ) (x : ℚ) : ∃! y, IsNearestMultiple s x y := by
  have hround := quotient_halfEven (x * 10 ^ s).num (x * 10 ^ s).pos
  rw [Rat.num_div_den] at hround
  have hy : IsNearestMultiple s x _ := ⟨_, hround, rfl⟩
  exact ⟨_, hy, fun z hz => hz.unique hy⟩

lemma isNearestMultiple_self {s : ℤ} {x : ℚ} {m : ℤ} (h : x * 10 ^ s = m) : IsNearestMultiple s x x := by
  refine ⟨m, ?_, ?_⟩
  · rw [h]
    exact roundsToEven_intCast m
  · rw [← h, mul_assoc, ← ten_zpow_add, add_neg_cancel, zpow_zero, mul_one]

lemma isNearestMultiple_zero {s : ℤ} {x : ℚ} (h : 2 * |x| ≤ 10 ^ (-s)) : IsNearestMultiple s x 0 := by
  refine ⟨0, ⟨?_, fun _ => Even.zero⟩, by simp⟩
  have hinv : (10 : ℚ) ^ (-s) * 10 ^ s = 1 := by rw [← ten_zpow_add, neg_add_cancel, zpow_zero]
  rw [Int.cast_zero, sub_zero, abs_mul, abs_of_pos (ten_zpow_pos s)]
  have hmul := mul_le_mul_of_nonneg_right h (ten_zpow_pos s).le
  linarith

lemma value_mul_of_scale_le {n : Decimal} {s : ℤ} (h : n.normalize.scale ≤ s) :
    ∃ m : ℤ, value n * 10 ^ s = m := by
  have hunits := value_mul_ten_zpow n.normalize s
  rw [if_pos h, value_normalize] at hunits
  exact ⟨_, hunits⟩

/-- Shifting the point to a place before the ones and back afterwards is the same as rounding there. -/
lemma roundAt_eq (n : Decimal) (s : ℤ) : n.roundAt s = n.rescale s .halfEven := by
  unfold Decimal.roundAt
  split_ifs with hs
  · rfl
  · have hle : n.scale - s ≤ 0 ↔ n.scale ≤ s := sub_nonpos
    simp only [Decimal.rescale, hle, zero_sub, neg_sub, sub_zero]
    split_ifs <;> simp only [zero_add]

/-- Rounding at a place gives the nearest multiple of its unit, in whatever form the number is held. -/
lemma isNearestMultiple_roundAt (n : Decimal) (s : ℤ) :
    IsNearestMultiple s (value n) (value (n.roundAt s)) := by
  have hunits := value_mul_ten_zpow n s
  rw [roundAt_eq, Decimal.rescale]
  split_ifs with h
  · rw [if_pos h] at hunits
    refine ⟨n.digits * Digits.place (s - n.scale).toNat, ?_, rfl⟩
    rw [hunits]
    exact roundsToEven_intCast _
  · rw [if_neg h] at hunits
    refine ⟨Rounding.halfEven.quotient n.digits (Digits.place (n.scale - s).toNat), ?_, rfl⟩
    rw [hunits]
    exact quotient_halfEven _ (place_pos _)

/-! ### Held numbers -/

lemma IsHeld.natAbs_digits_lt {n : Decimal} (h : IsHeld n) : n.normalize.digits.natAbs < 10 ^ 64 :=
  (lt_pow_count _).trans_le (Nat.pow_le_pow_right (by omega) h.1)

/-- Held numbers have no digits beyond the place that rounding cuts at the latest. -/
lemma IsHeld.scale_le {n : Decimal} (h : IsHeld n) : n.normalize.scale ≤ 2 * Operation.widestScale := by
  have hwidest : 2 * Operation.widestScale = 12290 := rfl
  rw [hwidest]
  by_cases hz : n.normalize.digits = 0
  · have hnormal := (isNormal_normalize n).resolve_right fun hlast => hlast (by rw [hz]; rfl)
    rw [hnormal]
    decide
  · have hexp := (inRange_value_iff hz).mp (by rw [value_normalize]; exact h.2)
    have hcount := h.1
    have hpos := count_pos n.normalize.digits.natAbs
    unfold Decimal.exponent Decimal.maxExponent at hexp
    omega

lemma InRange.abs_lt {x : ℚ} (h : InRange x) : |x| < 10 ^ (6145 : ℤ) := by
  obtain rfl | ⟨e, he, hle⟩ := h
  · rw [abs_zero]
    exact ten_zpow_pos _
  · refine he.2.trans_le (zpow_le_zpow_right₀ (by norm_num) ?_)
    have := (abs_le.mp hle).2
    omega

/-- The nearest multiple has few digits again: either the number is a multiple itself or the place is
among its digits. -/
lemma IsHeld.hasDigits_of_isNearestMultiple {n : Decimal} {s : ℤ} {y : ℚ} (h : IsHeld n)
    (hy : IsNearestMultiple s (value n) y) : HasDigits 64 y := by
  obtain hle | hlt := le_or_gt n.normalize.scale s
  · obtain ⟨m, hm⟩ := value_mul_of_scale_le hle
    rw [hy.unique (isNearestMultiple_self hm), hasDigits_value_iff (by decide)]
    exact h.1
  · -- The units at the place are fewer than those of the last digit, and rounding adds at most one.
    obtain ⟨m, hm, rfl⟩ := hy
    have hunit : (10 : ℚ) ^ (-n.normalize.scale + s) ≤ 1 := zpow_le_one_of_nonpos₀ (by norm_num) (by omega)
    have hdigits : (n.normalize.digits.natAbs : ℚ) < 10 ^ 64 := by exact_mod_cast h.natAbs_digits_lt
    have hsmall : |value n * 10 ^ s| < (10 ^ 64 : ℕ) := by
      rw [← value_normalize n, abs_mul, abs_value, abs_of_pos (ten_zpow_pos s), mul_assoc, ← ten_zpow_add]
      push_cast
      exact (mul_le_of_le_one_right (Nat.cast_nonneg _) hunit).trans_lt hdigits
    have hbound := (abs_bounds_of_dist_le hm.1 _).2 hsmall
    exact hasDigits_of_abs_le (by decide) (-s) (by exact_mod_cast hbound)

/-! ### Outcomes -/

lemma delivers_of_isNearest {n : Decimal} {y : ℚ} (h : IsNearest 64 (value n) y) :
    Delivers ((Operation.working n).map Value.ofDecimal) y := by
  obtain ⟨hok, hoverflow⟩ := working_of_isNearest h
  constructor
  · intro hrange
    obtain ⟨r, hr, hvalue⟩ := hok hrange
    rw [hr]
    exact ⟨r.normalize, rfl, by rw [value_normalize, hvalue], isNormal_normalize r⟩
  · intro hrange
    rw [hoverflow hrange]
    rfl

lemma delivers_working {n : Decimal} (h : HasDigits 64 (value n)) :
    Delivers ((Operation.working n).map Value.ofDecimal) (value n) :=
  delivers_of_isNearest (isNearest_self h)

lemma Delivers.eq_of_inRange {outcome : Except Fault Value} {n : Decimal} (h : Delivers outcome (value n))
    (hrange : InRange (value n)) : outcome = .ok (.ofDecimal n) := by
  obtain ⟨r, rfl, hvalue, hnormal⟩ := h.ok_of_inRange hrange
  rw [Value.ofDecimal, ← normalize_eq_iff.mpr hvalue, normalize_eq_self hnormal]

lemma Delivers.value_eq {outcome : Except Fault Value} {y : ℚ} {r : Decimal} (h : Delivers outcome y)
    (hr : outcome = .ok (.number r)) : value r = y := by
  subst hr
  by_cases hrange : InRange y
  · obtain ⟨s, hs, hvalue, -⟩ := h.ok_of_inRange hrange
    obtain rfl := Value.number.inj (Except.ok.inj hs)
    exact hvalue
  · exact nomatch h.overflow_of_not_inRange hrange

/-! ### The cut -/

/-- The place at which a number is rounded for a number of decimals. -/
def cutScale (s : ℤ) : ℤ := max (-Operation.widestScale) (min s (2 * Operation.widestScale))

lemma cutScale_eq (s : ℤ) : cutScale s = max (-6145) (min s 12290) := rfl

lemma IsHeld.scale_le_cutScale {n : Decimal} {s : ℤ} (hn : IsHeld n) (h : n.normalize.scale ≤ s) :
    n.normalize.scale ≤ cutScale s := by
  have hscale : n.normalize.scale ≤ 12290 := hn.scale_le
  rw [cutScale_eq]
  omega

/-- The cut keeps the nearest multiple unless the number is cut short: at the upper end held numbers have
no more digits, and at the lower end zero is nearest on both sides of the cut. -/
lemma isNearestMultiple_cutScale {n : Decimal} {s : ℤ} {y : ℚ} (hn : IsHeld n)
    (hy : IsNearestMultiple s (value n) y) (hcut : ¬IsCutShort s (value n)) :
    IsNearestMultiple (cutScale s) (value n) y := by
  have hscale : n.normalize.scale ≤ 12290 := hn.scale_le
  obtain hle | hlt := le_or_gt n.normalize.scale s
  · obtain ⟨m, hm⟩ := value_mul_of_scale_le hle
    obtain ⟨k, hk⟩ := value_mul_of_scale_le (hn.scale_le_cutScale hle)
    rw [hy.unique (isNearestMultiple_self hm)]
    exact isNearestMultiple_self hk
  · obtain hin | hbeyond := le_or_gt (-6145) s
    · have hsame : cutScale s = s := by
        rw [cutScale_eq]
        omega
      rwa [hsame]
    · have hsmall : 2 * |value n| ≤ 10 ^ (6145 : ℤ) := not_lt.mp fun hhalf => hcut ⟨hbeyond, hhalf⟩
      have hunit : (10 : ℚ) ^ (6145 : ℤ) ≤ 10 ^ (-s) := zpow_le_zpow_right₀ (by norm_num) (by omega)
      have hsame : cutScale s = -6145 := by
        rw [cutScale_eq]
        omega
      rw [hy.unique (isNearestMultiple_zero (hsmall.trans hunit)), hsame]
      exact isNearestMultiple_zero hsmall

/-- A number that is cut short is nearest to zero. -/
lemma IsCutShort.isNearestMultiple_zero {x : ℚ} {s : ℤ} (h : IsCutShort s x) (hx : InRange x) :
    IsNearestMultiple s x 0 := by
  have hbeyond := h.1
  apply Feel.Proofs.isNearestMultiple_zero
  calc 2 * |x| ≤ 2 * 10 ^ (6145 : ℤ) := mul_le_mul_of_nonneg_left hx.abs_lt.le two_pos.le
    _ ≤ 10 * 10 ^ (6145 : ℤ) := mul_le_mul_of_nonneg_right (by norm_num) (ten_zpow_pos _).le
    _ = 10 ^ (1 + 6145 : ℤ) := by rw [ten_zpow_add, zpow_one]
    _ ≤ 10 ^ (-s) := zpow_le_zpow_right₀ (by norm_num) (by omega)

/-- At the cut it is rounded to a power of ten that is out of range. -/
lemma IsCutShort.not_inRange {x y : ℚ} {s : ℤ} (h : IsCutShort s x)
    (hy : IsNearestMultiple (cutScale s) x y) : ¬InRange y := by
  have hsame : cutScale s = -6145 := by
    have := h.1
    rw [cutScale_eq]
    omega
  rw [hsame] at hy
  obtain ⟨m, hm, rfl⟩ := hy
  -- More than half of the unit is not rounded to zero.
  have hne : m ≠ 0 := by
    rintro rfl
    have hdist := hm.1
    rw [Int.cast_zero, sub_zero, abs_mul, abs_of_pos (ten_zpow_pos _), zpow_neg, ← div_eq_mul_inv,
      div_le_iff₀ (ten_zpow_pos _)] at hdist
    linarith [h.2]
  intro hrange
  have hlt := hrange.abs_lt
  have hone : (1 : ℚ) ≤ |(m : ℚ)| := by exact_mod_cast Int.one_le_abs hne
  rw [neg_neg, abs_mul, abs_of_pos (ten_zpow_pos _)] at hlt
  exact absurd hlt (le_mul_of_one_le_left (ten_zpow_pos _).le hone).not_gt

lemma inRange_zero : InRange 0 := Or.inl rfl

section Decimals

variable {n places : Decimal} {s : ℤ} (hn : IsHeld n) (hplaces : value places = s) (hs : IsWord s)

include hplaces hs in
lemma decimal_eq : Operation.decimal [.number n, .number places] =
    (Operation.working (n.roundAt (cutScale s))).map Value.ofDecimal := by
  have hword : places.word = .ok s := (word_eq_ok_iff places s).mpr ⟨hplaces, hs⟩
  simp only [Operation.decimal, anyNull, List.any_cons, List.any_nil, Value.isNull, Value.toNumber, hword,
    Bind.bind, Except.bind, Bool.or_false, Bool.false_eq_true, if_false, cutScale]
  cases Operation.working (n.roundAt _) <;> rfl

include hn hplaces hs

/-- The number rounded at the place where the cut leaves it is given if it is in range. -/
lemma delivers_decimal {y : ℚ} (hy : IsNearestMultiple (cutScale s) (value n) y) :
    Delivers (Operation.decimal [.number n, .number places]) y := by
  have hround := isNearestMultiple_roundAt n (cutScale s)
  rw [decimal_eq hplaces hs, hy.unique hround]
  exact delivers_working (hn.hasDigits_of_isNearestMultiple hround)

lemma decimal_of_isCutShort (hcut : IsCutShort s (value n)) :
    Operation.decimal [.number n, .number places] = .error .overflow := by
  have hround := isNearestMultiple_roundAt n (cutScale s)
  exact (delivers_decimal hn hplaces hs hround).overflow_of_not_inRange (hcut.not_inRange hround)

/-- The nearest multiple is given, or an overflow if it is out of range, exactly if the number is not cut
short. A number that is cut short gives an overflow although zero is nearest. A number with no more
decimals is given as it is, and zero is given for a number of less than half the unit. -/
theorem decimal_delivers_iff :
    (∃! y, IsNearestMultiple s (value n) y) ∧
      (∀ y, IsNearestMultiple s (value n) y →
        (Delivers (Operation.decimal [.number n, .number places]) y ↔ ¬IsCutShort s (value n))) ∧
      (IsCutShort s (value n) → IsNearestMultiple s (value n) 0 ∧
        Operation.decimal [.number n, .number places] = .error .overflow) ∧
      (n.normalize.scale ≤ s →
        Operation.decimal [.number n, .number places] = .ok (.number n.normalize)) ∧
      (|value n| < 10 ^ (-s) / 2 → ¬IsCutShort s (value n) →
        Operation.decimal [.number n, .number places] = .ok (.number .zero)) := by
  have hdelivers {y : ℚ} (hy : IsNearestMultiple s (value n) y) (hcut : ¬IsCutShort s (value n)) :=
    delivers_decimal hn hplaces hs (isNearestMultiple_cutScale hn hy hcut)
  refine ⟨existsUnique_isNearestMultiple s _, fun y hy => ⟨fun h hcut => ?_, hdelivers hy⟩,
    fun hcut => ⟨hcut.isNearestMultiple_zero hn.2, decimal_of_isCutShort hn hplaces hs hcut⟩,
    fun hscale => ?_, fun hsmall hcut => ?_⟩
  · rw [hy.unique (hcut.isNearestMultiple_zero hn.2)] at h
    obtain ⟨r, hr, -⟩ := h.ok_of_inRange inRange_zero
    rw [decimal_of_isCutShort hn hplaces hs hcut] at hr
    exact absurd hr (by simp)
  · obtain ⟨m, hm⟩ := value_mul_of_scale_le (hn.scale_le_cutScale hscale)
    exact (delivers_decimal hn hplaces hs (isNearestMultiple_self hm)).eq_of_inRange hn.2
  · have hzero := hdelivers (isNearestMultiple_zero (by linarith)) hcut
    rw [← value_zero] at hzero
    exact hzero.eq_of_inRange (by rw [value_zero]; exact inRange_zero)

end Decimals

/-- Half way between two hundreds, the even one is given. -/
theorem decimal_delivers_hundreds :
    IsHeld ⟨1250, 0⟩ ∧ value (.ofInt (-2)) = (-2 : ℤ) ∧ IsWord (-2) ∧
      IsNearestMultiple (-2) (value ⟨1250, 0⟩) 1200 ∧
      Delivers (Operation.decimal [.number ⟨1250, 0⟩, .number (.ofInt (-2))]) 1200 := by
  have hn : IsHeld ⟨1250, 0⟩ := isHeld_ofInt (k := 1250) (by decide)
  have hplaces : value (.ofInt (-2)) = (-2 : ℤ) := value_ofInt (-2)
  have hs : IsWord (-2) := by
    unfold IsWord
    decide
  have hnearest : IsNearestMultiple (-2) (value ⟨1250, 0⟩) 1200 := by
    refine ⟨12, ⟨?_, fun _ => by decide⟩, by norm_num⟩
    norm_num [value]
  have hcut : ¬IsCutShort (-2) (value ⟨1250, 0⟩) := fun h => absurd h.1 (by decide)
  exact ⟨hn, hplaces, hs, hnearest, ((decimal_delivers_iff hn hplaces hs).2.1 _ hnearest).mpr hcut⟩

/-- The number is less than half of the unit, so that zero is nearest, but an overflow is given. -/
theorem decimal_overflow_nearZero :
    IsHeld ⟨6, -6144⟩ ∧ IsWord (-7000) ∧ |value ⟨6, -6144⟩| < 10 ^ (-(-7000 : ℤ)) / 2 ∧
      IsNearestMultiple (-7000) (value ⟨6, -6144⟩) 0 ∧
      Operation.decimal [.number ⟨6, -6144⟩, .number (.ofInt (-7000))] = .error .overflow := by
  have hn : IsHeld ⟨6, -6144⟩ := isHeld_of_exponent (by decide +kernel) (by decide +kernel) (by decide)
  have hs : IsWord (-7000) := by
    unfold IsWord
    decide
  have habs : |value ⟨6, -6144⟩| = 6 * (10 : ℚ) ^ (6144 : ℤ) := by
    rw [abs_value, neg_neg]
    rfl
  have hcut : IsCutShort (-7000) (value ⟨6, -6144⟩) := by
    refine ⟨by decide, ?_⟩
    rw [habs, ← mul_assoc]
    calc (10 : ℚ) ^ (1 + 6144 : ℤ) = 10 * 10 ^ (6144 : ℤ) := by rw [ten_zpow_add, zpow_one]
      _ < 2 * 6 * 10 ^ (6144 : ℤ) := mul_lt_mul_of_pos_right (by norm_num) (ten_zpow_pos _)
  have hsmall : |value ⟨6, -6144⟩| < 10 ^ (-(-7000 : ℤ)) / 2 := by
    rw [habs, lt_div_iff₀ two_pos, neg_neg, mul_right_comm]
    calc 6 * 2 * (10 : ℚ) ^ (6144 : ℤ) < 10 ^ (2 : ℤ) * 10 ^ (6144 : ℤ) :=
        mul_lt_mul_of_pos_right (by norm_num) (ten_zpow_pos _)
      _ = 10 ^ (2 + 6144 : ℤ) := (ten_zpow_add _ _).symm
      _ ≤ 10 ^ (7000 : ℤ) := zpow_le_zpow_right₀ (by norm_num) (by norm_num)
  exact ⟨hn, hs, hsmall, hcut.isNearestMultiple_zero hn.2,
    decimal_of_isCutShort hn (value_ofInt _) hs hcut⟩

end Feel.Proofs
