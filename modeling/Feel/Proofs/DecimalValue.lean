import Feel.Decimal
import Feel.Proofs.DigitStrings

/-!
# The value of a decimal

A decimal denotes a rational number. Stripping trailing zeros keeps the number, and a normal form is
determined by it, so that decimals are the same exactly when their normal forms are. The exponent of a
decimal is that of the leading digit of its number.
-/

namespace Feel.Proofs

/-- The number that a decimal denotes. -/
def value (n : Decimal) : ℚ := n.digits * (10 : ℚ) ^ (-n.scale)

/-- Without trailing zeros, and zero with scale zero. -/
def IsNormal (n : Decimal) : Prop := n = .zero ∨ n.digits % 10 ≠ 0

/-- The leading digit of a number stands for this power of ten. -/
def HasExponent (x : ℚ) (e : ℤ) : Prop := (10 : ℚ) ^ e ≤ |x| ∧ |x| < (10 : ℚ) ^ (e + 1)

lemma ten_zpow_pos (e : ℤ) : (0 : ℚ) < (10 : ℚ) ^ e := zpow_pos (by norm_num) e

lemma ten_zpow_ne_zero (e : ℤ) : (10 : ℚ) ^ e ≠ 0 := (ten_zpow_pos e).ne'

lemma ten_zpow_add (a b : ℤ) : (10 : ℚ) ^ (a + b) = 10 ^ a * 10 ^ b :=
  zpow_add₀ (by norm_num) a b

/-! ### Normal forms -/

@[simp] lemma value_zero : value .zero = 0 := by simp [value, Decimal.zero]

lemma value_eq_zero {n : Decimal} : value n = 0 ↔ n.digits = 0 := by
  rw [value, mul_eq_zero, or_iff_left (ten_zpow_ne_zero _), Int.cast_eq_zero]

lemma value_shift (d s : ℤ) (k : ℕ) : value ⟨d * 10 ^ k, s + k⟩ = value ⟨d, s⟩ := by
  have hsplit : (10 : ℚ) ^ (-s) = 10 ^ k * 10 ^ (-(s + k)) := by
    rw [← zpow_natCast, ← ten_zpow_add]
    congr 1
    ring
  simp only [value, Int.cast_mul, Int.cast_pow, Int.cast_ofNat]
  rw [hsplit]
  ring

lemma value_stripZeros (d s : ℤ) : value (Decimal.stripZeros d s) = value ⟨d, s⟩ := by
  fun_induction Decimal.stripZeros d s with
  | case1 d s h ih =>
    rw [ih]
    have hshift := value_shift (d / 10) (s - 1) 1
    rw [pow_one, Int.ediv_mul_cancel (Int.dvd_of_emod_eq_zero h.2), Nat.cast_one,
      Int.sub_add_cancel] at hshift
    exact hshift.symm
  | case2 d s h => rfl

lemma stripZeros_digits_emod {d : ℤ} (s : ℤ) (h : d ≠ 0) : (Decimal.stripZeros d s).digits % 10 ≠ 0 := by
  fun_induction Decimal.stripZeros d s with
  | case1 d s hd ih => exact ih (by omega)
  | case2 d s hd => exact fun hz => hd ⟨h, hz⟩

@[simp] lemma value_normalize (n : Decimal) : value n.normalize = value n := by
  by_cases h : n.digits = 0
  · rw [Decimal.normalize, if_pos h, value_zero, value_eq_zero.mpr h]
  · rw [Decimal.normalize, if_neg h, value_stripZeros]

lemma isNormal_normalize (n : Decimal) : IsNormal n.normalize := by
  by_cases h : n.digits = 0
  · rw [Decimal.normalize, if_pos h]
    exact Or.inl rfl
  · rw [Decimal.normalize, if_neg h]
    exact Or.inr (stripZeros_digits_emod n.scale h)

/-- With a greater scale, digits without a trailing zero would have one. -/
lemma scale_le_of_value_eq {a b : Decimal} (hb : b.digits % 10 ≠ 0) (h : value a = value b) :
    b.scale ≤ a.scale := by
  by_contra hlt
  obtain ⟨k, hk⟩ : ∃ k : ℕ, b.scale = a.scale + (k + 1 : ℕ) :=
    ⟨(b.scale - a.scale - 1).toNat, by omega⟩
  have hshift := value_shift a.digits a.scale (k + 1)
  rw [← hk] at hshift
  have hb' : value b = b.digits * (10 : ℚ) ^ (-b.scale) := rfl
  rw [← hshift, hb', value] at h
  have hdigits := Int.cast_injective (mul_right_cancel₀ (ten_zpow_ne_zero _) h)
  rw [pow_succ, ← mul_assoc] at hdigits
  rw [← hdigits] at hb
  exact hb (Int.mul_emod_left _ _)

/-- A number has one normal form. -/
lemma eq_of_value_eq {a b : Decimal} (ha : IsNormal a) (hb : IsNormal b) (h : value a = value b) :
    a = b := by
  obtain rfl | ha := ha
  · obtain rfl | hb := hb
    · rfl
    · rw [value_zero, eq_comm, value_eq_zero] at h
      exact absurd (by rw [h]; rfl) hb
  · obtain rfl | hb := hb
    · rw [value_zero, value_eq_zero] at h
      exact absurd (by rw [h]; rfl) ha
    · have hscale : a.scale = b.scale :=
        le_antisymm (scale_le_of_value_eq ha h.symm) (scale_le_of_value_eq hb h)
      rw [value, value, hscale] at h
      have hdigits : a.digits = b.digits :=
        Int.cast_injective (mul_right_cancel₀ (ten_zpow_ne_zero _) h)
      cases a
      cases b
      simp_all

lemma normalize_eq_self {n : Decimal} (h : IsNormal n) : n.normalize = n :=
  eq_of_value_eq (isNormal_normalize n) h (value_normalize n)

lemma normalize_eq_iff {a b : Decimal} : a.normalize = b.normalize ↔ value a = value b := by
  constructor
  · intro h
    rw [← value_normalize a, h, value_normalize]
  · intro h
    exact eq_of_value_eq (isNormal_normalize a) (isNormal_normalize b) (by simpa using h)

lemma value_align (a b : Decimal) :
    value a = (a.align b).1 * (10 : ℚ) ^ (-max a.scale b.scale) ∧
      value b = (a.align b).2 * (10 : ℚ) ^ (-max a.scale b.scale) := by
  constructor
  · rw [← value_shift a.digits a.scale (b.scale - a.scale).toNat]
    have hmax : a.scale + (b.scale - a.scale).toNat = max a.scale b.scale := by omega
    rw [hmax]
    rfl
  · rw [← value_shift b.digits b.scale (a.scale - b.scale).toNat]
    have hmax : b.scale + (a.scale - b.scale).toNat = max a.scale b.scale := by omega
    rw [hmax]
    rfl

lemma same_iff {a b : Decimal} : a.same b = true ↔ value a = value b := by
  obtain ⟨ha, hb⟩ := value_align a b
  have hcmp : a.same b = true ↔ (a.align b).1 = (a.align b).2 := by
    simp [Decimal.same, Decimal.cmp]
  rw [hcmp, ha, hb]
  constructor
  · intro h
    rw [h]
  · intro h
    exact Int.cast_injective (mul_right_cancel₀ (ten_zpow_ne_zero _) h)

/-! ### Exponents -/

lemma HasExponent.ne_zero {x : ℚ} {e : ℤ} (h : HasExponent x e) : x ≠ 0 := by
  rintro rfl
  have hpos := ten_zpow_pos e
  have hle := h.1
  rw [abs_zero] at hle
  exact absurd hle hpos.not_ge

lemma HasExponent.unique {x : ℚ} {e f : ℤ} (he : HasExponent x e) (hf : HasExponent x f) : e = f := by
  have hef := (zpow_lt_zpow_iff_right₀ (by norm_num : (1 : ℚ) < 10)).mp (he.1.trans_lt hf.2)
  have hfe := (zpow_lt_zpow_iff_right₀ (by norm_num : (1 : ℚ) < 10)).mp (hf.1.trans_lt he.2)
  omega

lemma abs_value (n : Decimal) : |value n| = n.digits.natAbs * (10 : ℚ) ^ (-n.scale) := by
  rw [value, abs_mul, abs_of_pos (ten_zpow_pos _), ← Int.cast_abs, Int.abs_eq_natAbs]
  rfl

lemma hasExponent_value {n : Decimal} (h : n.digits ≠ 0) : HasExponent (value n) n.exponent := by
  have hpos : 0 < n.digits.natAbs := Int.natAbs_pos.mpr h
  have hcount := count_pos n.digits.natAbs
  have hlo : (10 : ℚ) ^ (n.digitCount - 1) ≤ n.digits.natAbs := by
    exact_mod_cast pow_count_le hpos
  have hhi : (n.digits.natAbs : ℚ) < (10 : ℚ) ^ n.digitCount := by
    exact_mod_cast lt_pow_count n.digits.natAbs
  have hexp : n.exponent = ((n.digitCount - 1 : ℕ) : ℤ) + -n.scale := by
    unfold Decimal.exponent Decimal.digitCount
    omega
  have hexp' : n.exponent + 1 = (n.digitCount : ℤ) + -n.scale := by
    unfold Decimal.exponent
    omega
  rw [HasExponent, abs_value, hexp', hexp, ten_zpow_add, ten_zpow_add, zpow_natCast, zpow_natCast]
  exact ⟨mul_le_mul_of_nonneg_right hlo (ten_zpow_pos _).le,
    mul_lt_mul_of_pos_right hhi (ten_zpow_pos _)⟩

end Feel.Proofs
