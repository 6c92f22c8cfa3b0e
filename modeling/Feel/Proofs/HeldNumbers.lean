import Feel.Proofs.PlainText
import Feel.Proofs.WholeDecimals

/-!
# Numbers that the library holds

Whether a number is held depends on its value alone. Rounding to the working precision gives held
numbers. Held numbers stay held when they are rounded to a neighbouring whole number or lose their sign,
although these functions do not round to the working precision.
-/

namespace Feel.Proofs

/-! ### Significant digits -/

lemma isHeld_congr {a b : Decimal} (h : value a = value b) : IsHeld a ↔ IsHeld b := by
  unfold IsHeld
  rw [normalize_eq_iff.mpr h, h]

/-- Without trailing zeros a number has no more digits than in any other form. -/
lemma digitCount_normalize_le {n : Decimal} {d s : ℤ} {p : ℕ} (hp : 0 < p) (hn : value n = value ⟨d, s⟩)
    (hd : d.natAbs ≤ 10 ^ p) : n.normalize.digitCount ≤ p := by
  have hvalue : value ⟨d, s⟩ = value n.normalize := by rw [value_normalize, hn]
  obtain hzero | hlast := isNormal_normalize n
  · rw [hzero, Decimal.digitCount, count_of_lt (by decide)]
    exact hp
  · have hscale : n.normalize.scale ≤ s := scale_le_of_value_eq hlast hvalue
    obtain ⟨k, hk⟩ : ∃ k : ℕ, s = n.normalize.scale + k := ⟨(s - n.normalize.scale).toNat, by omega⟩
    have hshift := value_shift n.normalize.digits n.normalize.scale k
    have hdigits : n.normalize.digits * 10 ^ k = d := by
      rw [← hk] at hshift
      have hsame := hshift.trans hvalue.symm
      rw [value, value] at hsame
      exact_mod_cast mul_right_cancel₀ (ten_zpow_ne_zero _) hsame
    have hle : n.normalize.digits.natAbs ≤ 10 ^ p := by
      rw [← hdigits, Int.natAbs_mul] at hd
      exact (Nat.le_mul_of_pos_right _ (Int.natAbs_pos.mpr (by positivity))).trans hd
    -- The power itself has a trailing zero.
    have hne : n.normalize.digits.natAbs ≠ 10 ^ p := by
      intro heq
      have hdvd : 10 ∣ n.normalize.digits.natAbs := heq ▸ dvd_pow_self 10 hp.ne'
      omega
    exact count_le_of_lt_pow hp (by omega)

lemma inRange_of_digits {d s : ℤ} (hd : d.natAbs ≤ 10 ^ 64) (hs : s.natAbs ≤ 6000) :
    InRange (value ⟨d, s⟩) := by
  by_cases hzero : d = 0
  · exact Or.inl (value_eq_zero.mpr hzero)
  · have hcount : (⟨d, s⟩ : Decimal).digitCount ≤ 65 :=
      count_le_of_lt_pow (by omega) (hd.trans_lt (by norm_num))
    rw [inRange_value_iff hzero]
    unfold Decimal.exponent Decimal.maxExponent
    dsimp only
    omega

/-- A number of few digits with a small scale is held. -/
lemma isHeld_of_digits {n : Decimal} {d s : ℤ} (hn : value n = value ⟨d, s⟩) (hd : d.natAbs ≤ 10 ^ 64)
    (hs : s.natAbs ≤ 6000) : IsHeld n := by
  refine ⟨digitCount_normalize_le (by omega) hn hd, ?_⟩
  rw [hn]
  exact inRange_of_digits hd hs

lemma isHeld_of_whole {n : Decimal} {k : ℤ} (hn : value n = k) (hk : k.natAbs ≤ 10 ^ 64) : IsHeld n :=
  isHeld_of_digits (by rw [hn, ← value_ofInt]; rfl) hk (s := 0) (by decide)

/-! ### The working precision -/

/-- A number rounded to so many digits is a multiple of its last place, with at most as many digits or
a power of ten. -/
lemma IsRounded.exists_digits {p : ℕ} {x y : ℚ} (h : IsRounded p x y) :
    ∃ d s : ℤ, y = value ⟨d, s⟩ ∧ d.natAbs ≤ 10 ^ p := by
  obtain ⟨-, rfl⟩ | ⟨e, m, he, hm, rfl⟩ := h
  · exact ⟨0, 0, value_zero.symm, Nat.zero_le _⟩
  · refine ⟨m, -(e + 1 - p), by rw [value, neg_neg], ?_⟩
    have hx : |x / 10 ^ (e + 1 - p)| < 10 ^ p := by
      rw [abs_div, abs_of_pos (ten_zpow_pos _), div_lt_iff₀ (ten_zpow_pos _), ← zpow_natCast,
        ← ten_zpow_add, add_sub_cancel]
      exact he.2
    have hlt : |(m : ℚ)| < 10 ^ p + 1 := by
      have hdist := abs_sub_abs_le_abs_sub (m : ℚ) (x / 10 ^ (e + 1 - p))
      rw [abs_sub_comm] at hdist
      have hhalf := hm.1
      linarith
    have hint : |m| < 10 ^ p + 1 := by exact_mod_cast hlt
    rw [Int.abs_eq_natAbs] at hint
    exact_mod_cast Int.lt_add_one_iff.mp hint

lemma isHeld_of_toWorking? {x n : Decimal} (h : x.toWorking? = some n) : IsHeld n := by
  obtain ⟨hround, hrange, -⟩ := (toWorking?_eq_some_iff x n).mp h
  obtain ⟨d, s, hn, hd⟩ := hround.exists_digits
  exact ⟨digitCount_normalize_le (by omega) hn hd, hrange⟩

/-! ### Neighbouring whole numbers and magnitudes -/

/-- A number with places behind the point has fewer digits before it. -/
lemma abs_value_lt_of_scale_pos {n : Decimal} {p : ℕ} (hcount : n.digitCount ≤ p) (hscale : 0 < n.scale) :
    |value n| < 10 ^ p / 10 := by
  have hdigits : (n.digits.natAbs : ℚ) < 10 ^ p := by
    have hlt := (lt_pow_count n.digits.natAbs).trans_le (Nat.pow_le_pow_right (by omega) hcount)
    exact_mod_cast hlt
  have hplaces : (10 : ℚ) ^ (-n.scale) ≤ 10⁻¹ := by
    rw [← zpow_neg_one]
    exact zpow_le_zpow_right₀ (by norm_num) (by omega)
  rw [abs_value, div_eq_mul_inv]
  exact mul_lt_mul hdigits hplaces (ten_zpow_pos _) (by positivity)

/-- Whole numbers next to a held number are held. -/
lemma isHeld_of_near {n r : Decimal} {k : ℤ} (h : IsHeld n) (hr : value r = k) (hk : |value n - k| < 1) :
    IsHeld r := by
  by_cases hscale : n.normalize.scale ≤ 0
  · -- The number is whole itself, so that it has no other whole number next to it.
    have hwhole := value_of_scale_nonpos hscale
    rw [value_normalize] at hwhole
    have hsame : value r = value n := by
      rw [hwhole, ← Int.cast_sub, ← Int.cast_abs] at hk
      have hlt : |n.normalize.digits * 10 ^ (-n.normalize.scale).toNat - k| < 1 := by exact_mod_cast hk
      rw [Int.abs_lt_one_iff, sub_eq_zero] at hlt
      rw [hr, hwhole, hlt]
    exact (isHeld_congr hsame).mpr h
  · have hlt := abs_value_lt_of_scale_pos h.1 (not_le.mp hscale)
    rw [value_normalize] at hlt
    have hdist := abs_sub_abs_le_abs_sub (k : ℚ) (value n)
    rw [abs_sub_comm] at hdist
    have hbound : |(k : ℚ)| ≤ 10 ^ 64 := by
      norm_num at hlt ⊢
      linarith
    have hint : |k| ≤ 10 ^ 64 := by exact_mod_cast hbound
    rw [Int.abs_eq_natAbs] at hint
    exact isHeld_of_whole hr (by exact_mod_cast hint)

lemma IsHeld.floor {n : Decimal} (h : IsHeld n) : IsHeld n.floor := by
  refine isHeld_of_near h (value_floor n) ?_
  rw [abs_of_nonneg (sub_nonneg.mpr (Int.floor_le _))]
  linarith [Int.lt_floor_add_one (value n)]

lemma IsHeld.ceiling {n : Decimal} (h : IsHeld n) : IsHeld n.ceiling := by
  refine isHeld_of_near h (value_ceiling n) ?_
  rw [abs_of_nonpos (sub_nonpos.mpr (Int.le_ceil _))]
  linarith [Int.ceil_lt_add_one (value n)]

lemma inRange_abs {x : ℚ} (h : InRange x) : InRange |x| := by
  unfold InRange HasExponent at *
  rwa [abs_abs, abs_eq_zero]

lemma IsHeld.abs {n : Decimal} (h : IsHeld n) : IsHeld n.abs := by
  have hvalue : value n.abs = value n.normalize.abs := by
    rw [value_abs, value_abs, value_normalize]
  have hdigits : n.normalize.digits.natAbs < 10 ^ 64 :=
    (lt_pow_count _).trans_le (Nat.pow_le_pow_right (by omega) h.1)
  refine ⟨digitCount_normalize_le (by omega) hvalue ?_, ?_⟩
  · rw [Int.natAbs_natCast]
    exact hdigits.le
  · rw [value_abs]
    exact inRange_abs h.2

end Feel.Proofs
