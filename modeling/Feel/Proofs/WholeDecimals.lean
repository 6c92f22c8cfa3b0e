import Feel.Decimal.Whole
import Feel.Proofs.DecimalValue

/-!
# Sums, products and whole numbers

Sums and products of decimals have the value of the sum and the product. A decimal is taken as a whole
number exactly if its value is one within the bounds, however many places it is held with. Cutting a
decimal at a place, downward, upward or toward zero, cuts its value there.
-/

namespace Feel.Proofs

/-! ### Sums and products -/

@[simp] lemma value_ofInt (n : ℤ) : value (.ofInt n) = n := by
  rw [value, Decimal.ofInt, neg_zero, zpow_zero, mul_one]

@[simp] lemma value_add (a b : Decimal) : value (a.add b) = value a + value b := by
  obtain ⟨ha, hb⟩ := value_align a b
  rw [ha, hb, ← add_mul, ← Int.cast_add]
  rfl

@[simp] lemma value_mul (a b : Decimal) : value (a.mul b) = value a * value b := by
  rw [value, value, value, Decimal.mul, neg_add, ten_zpow_add, Int.cast_mul]
  ring

lemma value_nonneg_iff {n : Decimal} : 0 ≤ value n ↔ 0 ≤ n.digits := by
  rw [value, mul_nonneg_iff_of_pos_right (ten_zpow_pos _), Int.cast_nonneg_iff]

/-! ### Whole numbers -/

lemma value_of_scale_nonpos {n : Decimal} (h : n.scale ≤ 0) :
    value n = (n.digits * 10 ^ (-n.scale).toNat : ℤ) := by
  have hscale : -n.scale = (-n.scale).toNat := by omega
  rw [value, hscale, zpow_natCast, Int.toNat_natCast, Int.cast_mul, Int.cast_pow, Int.cast_ofNat]

/-- Without trailing zeros, whole numbers have no places behind the point. -/
lemma scale_nonpos_of_value_eq {n : Decimal} {k : ℤ} (hn : IsNormal n) (h : value n = k) :
    n.scale ≤ 0 := by
  obtain rfl | hn := hn
  · exact le_refl 0
  · exact scale_le_of_value_eq hn (by rw [value_ofInt, h] : value (.ofInt k) = value n)

/-- A number with that many digits before the point exceeds every bound of fewer digits. -/
lemma pow_wordDigits_le_abs_value {n : Decimal} (hne : n.digits ≠ 0)
    (h : (Decimal.wordDigits : ℤ) ≤ n.exponent) : (10 : ℚ) ^ Decimal.wordDigits ≤ |value n| := by
  have hexp := (hasExponent_value hne).1
  have hle : (10 : ℚ) ^ (Decimal.wordDigits : ℤ) ≤ 10 ^ n.exponent :=
    zpow_le_zpow_right₀ (by norm_num) h
  rw [zpow_natCast] at hle
  exact hle.trans hexp

/-- A decimal is the whole number `k` of the bounds exactly if this is its value. -/
theorem whole_eq_ok_iff {lo hi : ℤ} (hlo : lo ≤ 0) (hhi : 0 ≤ hi) (hlo' : -10 ^ Decimal.wordDigits < lo)
    (hhi' : hi < 10 ^ Decimal.wordDigits) (n : Decimal) (k : ℤ) :
    n.whole lo hi = .ok k ↔ value n = k ∧ lo ≤ k ∧ k ≤ hi := by
  by_cases hzero : n.digits = 0
  · rw [Decimal.whole, if_pos hzero, value_eq_zero.mpr hzero]
    constructor
    · intro h
      obtain rfl := Except.ok.inj h
      exact ⟨Int.cast_zero.symm, hlo, hhi⟩
    · rintro ⟨h, -, -⟩
      rw [Int.cast_eq_zero.mp h.symm]
  · have hne : n.normalize.digits ≠ 0 := by
      intro h
      rw [← value_eq_zero, value_normalize, value_eq_zero] at h
      exact hzero h
    rw [Decimal.whole, if_neg hzero, ← value_normalize]
    dsimp only
    split_ifs with hscale hlarge hbounds
    · refine iff_of_false (by simp) ?_
      rintro ⟨h, -, -⟩
      exact absurd (scale_nonpos_of_value_eq (isNormal_normalize n) h) (not_le.mpr hscale)
    · refine iff_of_false (by simp) ?_
      rintro ⟨h, hle, hle'⟩
      have hlarge := pow_wordDigits_le_abs_value hne hlarge
      rw [h, ← Int.cast_abs] at hlarge
      have hlarge : 10 ^ Decimal.wordDigits ≤ |k| := by exact_mod_cast hlarge
      obtain h | h := le_abs.mp hlarge <;> omega
    · have hvalue := value_of_scale_nonpos (not_lt.mp hscale)
      rw [hvalue, Except.ok.injEq, Int.cast_inj]
      constructor
      · rintro rfl
        exact ⟨rfl, hbounds⟩
      · exact fun h => h.1
    · have hvalue := value_of_scale_nonpos (not_lt.mp hscale)
      refine iff_of_false (by simp) ?_
      rw [hvalue, Int.cast_inj]
      rintro ⟨rfl, h⟩
      exact hbounds h

/-- Words of 64 bits are whole numbers below `2 ^ 63` and from `-2 ^ 63` on. -/
lemma word_eq_ok_iff (n : Decimal) (k : ℤ) :
    n.word = .ok k ↔ value n = k ∧ -Word.max64 - 1 ≤ k ∧ k ≤ Word.max64 :=
  whole_eq_ok_iff (by decide) (by decide) (by decide) (by decide) n k

/-- A whole number outside the bounds is reported with the decimal as it is held. -/
lemma whole_eq_error {lo hi : ℤ} (hlo : lo ≤ 0) (hhi : 0 ≤ hi) {n : Decimal} {k : ℤ}
    (h : value n = k) (hk : ¬(lo ≤ k ∧ k ≤ hi)) : n.whole lo hi = .error (.outOfRange n) := by
  have hzero : ¬n.digits = 0 := by
    rw [← value_eq_zero, h, Int.cast_eq_zero]
    rintro rfl
    exact hk ⟨hlo, hhi⟩
  have hvalue : value n.normalize = k := by rw [value_normalize, h]
  have hscale := scale_nonpos_of_value_eq (isNormal_normalize n) hvalue
  have hdigits : n.normalize.digits * Digits.place (-n.normalize.scale).toNat = k := by
    rw [value_of_scale_nonpos hscale, Int.cast_inj] at hvalue
    exact hvalue
  rw [Decimal.whole, if_neg hzero]
  dsimp only
  rw [if_neg (not_lt.mpr hscale), hdigits, if_neg hk, ite_self]

/-! ### Cutting -/

lemma rescale_eq (d : Decimal) (scale : ℤ) (mode : Rounding) :
    d.rescale scale mode = ⟨(d.rescale scale mode).digits, scale⟩ := by
  unfold Decimal.rescale
  split_ifs <;> rfl

/-- In units of a place, a decimal is a whole number or a quotient by a power of ten. -/
lemma value_mul_ten_zpow (d : Decimal) (scale : ℤ) :
    value d * 10 ^ scale =
      if d.scale ≤ scale then ((d.digits * Digits.place (scale - d.scale).toNat : ℤ) : ℚ)
      else d.digits / (Digits.place (d.scale - scale).toNat : ℕ) := by
  have hshift : value d * 10 ^ scale = d.digits * (10 : ℚ) ^ (scale - d.scale) := by
    rw [value, mul_assoc, ← ten_zpow_add, neg_add_eq_sub]
  rw [hshift, place_eq, place_eq]
  split_ifs with hscale
  · have hplaces : scale - d.scale = ((scale - d.scale).toNat : ℤ) := by omega
    rw [hplaces, zpow_natCast, Int.toNat_natCast]
    push_cast
    rfl
  · have hplaces : scale - d.scale = -((d.scale - scale).toNat : ℤ) := by omega
    rw [hplaces, zpow_neg, zpow_natCast, div_eq_mul_inv, Nat.cast_pow, Nat.cast_ofNat]

lemma place_pos (k : ℕ) : 0 < Digits.place k := by
  rw [place_eq]
  exact Nat.pow_pos (by omega)

lemma digits_rescale_floor (d : Decimal) (scale : ℤ) :
    (d.rescale scale .floor).digits = ⌊value d * 10 ^ scale⌋ := by
  rw [value_mul_ten_zpow, Decimal.rescale]
  split_ifs with hscale
  · rw [Int.floor_intCast]
  · rw [Rat.floor_intCast_div_natCast]
    exact Int.fdiv_eq_ediv_of_nonneg _ (Int.natCast_nonneg _)

/-- A decimal cut at a place keeps what its value has up to this place. -/
lemma digits_rescale_towardZero {d : Decimal} (h : 0 ≤ value d) (scale : ℤ) :
    (d.rescale scale .towardZero).digits = ⌊value d * 10 ^ scale⌋ := by
  rw [value_mul_ten_zpow, Decimal.rescale]
  split_ifs with hscale
  · rw [Int.floor_intCast]
  · rw [Rat.floor_intCast_div_natCast]
    exact Int.tdiv_eq_ediv_of_nonneg (value_nonneg_iff.mp h)

lemma quotient_ceiling (n : ℤ) {d : ℕ} (hd : 0 < d) : Rounding.ceiling.quotient n d = ⌈(n / d : ℚ)⌉ := by
  have hd' : (0 : ℚ) < d := by exact_mod_cast hd
  have hrest := Int.fmod_nonneg_of_pos n (by exact_mod_cast hd : (0 : ℤ) < d)
  have hlt := Int.fmod_lt_of_pos n (by exact_mod_cast hd : (0 : ℤ) < d)
  have hsum : n = n.fdiv d * d + n.fmod d := by
    rw [mul_comm, add_comm]
    exact (Int.fmod_add_mul_fdiv n d).symm
  rw [eq_comm, Int.ceil_eq_iff, lt_div_iff₀ hd', div_le_iff₀ hd']
  simp only [Rounding.quotient]
  split_ifs with hwhole
  · have hlo : (n.fdiv d - 1) * d < n := by
      rw [sub_mul]
      omega
    have hhi : n ≤ n.fdiv d * d := by omega
    exact ⟨by exact_mod_cast hlo, by exact_mod_cast hhi⟩
  · have hlo : (n.fdiv d + 1 - 1) * d < n := by
      rw [add_sub_cancel_right]
      omega
    have hhi : n ≤ (n.fdiv d + 1) * d := by
      rw [add_mul]
      omega
    exact ⟨by exact_mod_cast hlo, by exact_mod_cast hhi⟩

lemma digits_rescale_ceiling (d : Decimal) (scale : ℤ) :
    (d.rescale scale .ceiling).digits = ⌈value d * 10 ^ scale⌉ := by
  rw [value_mul_ten_zpow, Decimal.rescale]
  split_ifs with hscale
  · rw [Int.ceil_intCast]
  · exact quotient_ceiling d.digits (place_pos _)

lemma value_floor (n : Decimal) : value n.floor = ⌊value n⌋ := by
  have hdigits := digits_rescale_floor n 0
  rw [zpow_zero, mul_one] at hdigits
  rw [Decimal.floor, rescale_eq, ← hdigits]
  exact value_ofInt _

lemma value_ceiling (n : Decimal) : value n.ceiling = ⌈value n⌉ := by
  have hdigits := digits_rescale_ceiling n 0
  rw [zpow_zero, mul_one] at hdigits
  rw [Decimal.ceiling, rescale_eq, ← hdigits]
  exact value_ofInt _

lemma value_abs (n : Decimal) : value n.abs = |value n| := by
  rw [abs_value, value, Decimal.abs, Int.cast_natCast]

end Feel.Proofs
