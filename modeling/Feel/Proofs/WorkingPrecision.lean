import Feel.Proofs.DecimalValue

/-!
# Rounding to the working precision

Rounding is described on rational numbers, without digits: the nearest multiple of the unit that the
exponent and the precision give, and the even one of two that are equally near. `toWorking?_eq_some_iff`
says that the library's results are the normal forms of numbers rounded in that way, and that there is
a result unless the rounded number's exponent is out of range.
-/

namespace Feel.Proofs

/-- The nearest whole number, and the even one of two that are equally near. -/
def RoundsToEven (x : ℚ) (m : ℤ) : Prop := |x - m| ≤ 1 / 2 ∧ (|x - m| = 1 / 2 → Even m)

/-- The second number is the first one rounded half to even to so many significant digits. -/
def IsRounded (precision : ℕ) (x y : ℚ) : Prop :=
  (x = 0 ∧ y = 0) ∨
    ∃ e m : ℤ, HasExponent x e ∧ RoundsToEven (x / 10 ^ (e + 1 - precision)) m ∧
      y = m * (10 : ℚ) ^ (e + 1 - precision)

/-- Zero, or a number with an exponent of at most 6144 in either direction. -/
def InRange (x : ℚ) : Prop := x = 0 ∨ ∃ e : ℤ, HasExponent x e ∧ |e| ≤ 6144

/-! ### Nearest whole numbers -/

lemma RoundsToEven.unique {x : ℚ} {m k : ℤ} (hm : RoundsToEven x m) (hk : RoundsToEven x k) :
    m = k := by
  by_contra hne
  have hdist : |(m : ℚ) - k| ≤ |x - k| + |x - m| := by
    have hsum := abs_sub_le (m : ℚ) x k
    rw [abs_sub_comm (m : ℚ) x] at hsum
    linarith
  have hone : (1 : ℚ) ≤ |(m : ℚ) - k| := by
    have hint : (1 : ℤ) ≤ |m - k| := Int.one_le_abs (sub_ne_zero.mpr hne)
    exact_mod_cast hint
  -- Both are at distance one half, so both are even and next to each other.
  have hmhalf : |x - m| = 1 / 2 := le_antisymm hm.1 (by linarith [hk.1])
  have hkhalf : |x - k| = 1 / 2 := le_antisymm hk.1 (by linarith [hm.1])
  have hle : |m - k| ≤ 1 := by
    have hq : |(m : ℚ) - k| ≤ 1 := by linarith
    exact_mod_cast hq
  obtain ⟨a, ha⟩ := hm.2 hmhalf
  obtain ⟨b, hb⟩ := hk.2 hkhalf
  rw [abs_le] at hle
  omega

lemma roundsToEven_intCast (m : ℤ) : RoundsToEven m m := by
  rw [RoundsToEven, sub_self, abs_zero]
  norm_num

lemma RoundsToEven.ne_zero {x : ℚ} {m : ℤ} (h : RoundsToEven x m) (hx : 1 ≤ |x|) : m ≠ 0 := by
  rintro rfl
  have hle := h.1
  rw [Int.cast_zero, sub_zero] at hle
  linarith

lemma quotient_halfEven (n : ℤ) {d : ℕ} (hd : 0 < d) :
    RoundsToEven ((n : ℚ) / d) (Rounding.halfEven.quotient n d) := by
  have hd' : (0 : ℚ) < d := by exact_mod_cast hd
  have hrest := Int.fmod_nonneg_of_pos n (by exact_mod_cast hd : (0 : ℤ) < d)
  have hlt := Int.fmod_lt_of_pos n (by exact_mod_cast hd : (0 : ℤ) < d)
  have hsum : (n.fmod d : ℤ) + d * n.fdiv d = n := Int.fmod_add_mul_fdiv n d
  -- The quotient differs from its whole part by the rest over the divisor.
  have hfrac : (n : ℚ) / d = n.fdiv d + (n.fmod d : ℚ) / d := by
    rw [div_eq_iff hd'.ne', add_mul, div_mul_cancel₀ _ hd'.ne']
    exact_mod_cast (by linarith : n = n.fdiv d * d + n.fmod d)
  have hf₀ : 0 ≤ (n.fmod d : ℚ) / d := div_nonneg (by exact_mod_cast hrest) hd'.le
  rw [RoundsToEven, hfrac]
  simp only [Rounding.quotient]
  split_ifs with h₁ h₂ h₃
  · have hhalf : (n.fmod d : ℚ) / d < 1 / 2 := by
      rw [div_lt_div_iff₀ hd' two_pos]
      exact_mod_cast (by omega : n.fmod d * 2 < 1 * d)
    rw [add_sub_cancel_left, abs_of_nonneg hf₀]
    exact ⟨hhalf.le, fun h => absurd h hhalf.ne⟩
  · have hhalf : 1 / 2 < (n.fmod d : ℚ) / d := by
      rw [div_lt_div_iff₀ two_pos hd']
      exact_mod_cast (by omega : 1 * (d : ℤ) < n.fmod d * 2)
    have hone : (n.fmod d : ℚ) / d < 1 := by
      rw [div_lt_one hd']
      exact_mod_cast hlt
    rw [Int.cast_add, Int.cast_one, add_sub_add_left_eq_sub, abs_sub_comm, abs_of_pos (by linarith)]
    exact ⟨by linarith, fun h => absurd h (by linarith)⟩
  · have hhalf : (n.fmod d : ℚ) / d = 1 / 2 := by
      rw [div_eq_div_iff hd'.ne' two_ne_zero]
      exact_mod_cast (by omega : n.fmod d * 2 = 1 * d)
    rw [add_sub_cancel_left, hhalf, abs_of_pos (by norm_num)]
    exact ⟨le_refl _, fun _ => Int.even_iff.mpr h₃⟩
  · have hhalf : (n.fmod d : ℚ) / d = 1 / 2 := by
      rw [div_eq_div_iff hd'.ne' two_ne_zero]
      exact_mod_cast (by omega : n.fmod d * 2 = 1 * d)
    rw [Int.cast_add, Int.cast_one, add_sub_add_left_eq_sub, hhalf, abs_sub_comm,
      abs_of_pos (by norm_num)]
    refine ⟨by norm_num, fun _ => ?_⟩
    rw [Int.even_iff]
    omega

/-! ### Significant digits -/

lemma IsRounded.unique {p : ℕ} {x y z : ℚ} (hy : IsRounded p x y) (hz : IsRounded p x z) : y = z := by
  obtain ⟨rfl, rfl⟩ | ⟨e, m, he, hm, rfl⟩ := hy
  · obtain ⟨-, rfl⟩ | ⟨e, m, he, -⟩ := hz
    · rfl
    · exact absurd rfl he.ne_zero
  · obtain ⟨rfl, -⟩ | ⟨f, k, hf, hk, rfl⟩ := hz
    · exact absurd rfl he.ne_zero
    · obtain rfl := he.unique hf
      rw [hm.unique hk]

/-- In units of the last place, a number that is not zero is at least one. -/
lemma HasExponent.one_le_abs_div {p : ℕ} (hp : 0 < p) {x : ℚ} {e : ℤ} (h : HasExponent x e) :
    1 ≤ |x / 10 ^ (e + 1 - p)| := by
  rw [abs_div, abs_of_pos (ten_zpow_pos _), one_le_div (ten_zpow_pos _)]
  have hexp : e + 1 - (p : ℤ) ≤ e := by omega
  exact (zpow_le_zpow_right₀ (by norm_num) hexp).trans h.1

lemma IsRounded.eq_zero_iff {p : ℕ} (hp : 0 < p) {x y : ℚ} (h : IsRounded p x y) : y = 0 ↔ x = 0 := by
  obtain ⟨rfl, rfl⟩ | ⟨e, m, he, hm, rfl⟩ := h
  · rfl
  · have hm := hm.ne_zero (he.one_le_abs_div hp)
    rw [mul_eq_zero, or_iff_left (ten_zpow_ne_zero _), Int.cast_eq_zero]
    exact iff_of_false hm he.ne_zero

lemma isRounded_self {p : ℕ} {n : Decimal} (h : n.digitCount ≤ p) : IsRounded p (value n) (value n) := by
  by_cases hz : n.digits = 0
  · exact Or.inl ⟨value_eq_zero.mpr hz, value_eq_zero.mpr hz⟩
  · obtain ⟨k, hk⟩ := Nat.exists_eq_add_of_le h
    have hexp : -n.scale = k + (n.exponent + 1 - p) := by
      rw [Decimal.exponent, hk]
      push_cast
      ring
    have hunits : value n = ((n.digits * 10 ^ k : ℤ) : ℚ) * 10 ^ (n.exponent + 1 - p) := by
      rw [value, hexp, ten_zpow_add, zpow_natCast]
      push_cast
      ring
    refine Or.inr ⟨n.exponent, n.digits * 10 ^ k, hasExponent_value hz, ?_, hunits⟩
    have hdiv : value n / 10 ^ (n.exponent + 1 - p) = ((n.digits * 10 ^ k : ℤ) : ℚ) := by
      rw [div_eq_iff (ten_zpow_ne_zero _)]
      exact hunits
    rw [hdiv]
    exact roundsToEven_intCast _

lemma isRounded_roundSignificant {p : ℕ} (hp : 0 < p) (n : Decimal) :
    IsRounded p (value n) (value (n.roundSignificant p)) := by
  unfold Decimal.roundSignificant
  split_ifs with h
  · exact isRounded_self h
  · have hz : n.digits ≠ 0 := by
      intro hz
      rw [Decimal.digitCount, hz, Int.natAbs_zero, count_of_lt (by omega)] at h
      omega
    obtain ⟨k, hk⟩ := Nat.exists_eq_add_of_le (not_le.mp h).le
    have hcut : n.digitCount - p = k := by omega
    have hunit : n.exponent + 1 - p = -(n.scale - k) := by
      rw [Decimal.exponent, hk]
      push_cast
      ring
    refine Or.inr ⟨n.exponent, Rounding.halfEven.quotient n.digits (10 ^ k), hasExponent_value hz, ?_, ?_⟩
    · have hdiv : value n / 10 ^ (n.exponent + 1 - p) = (n.digits : ℚ) / (10 ^ k : ℕ) := by
        rw [hunit, value, div_eq_div_iff (ten_zpow_ne_zero _) (by positivity), mul_assoc, Nat.cast_pow,
          Nat.cast_ofNat, ← zpow_natCast, ← ten_zpow_add]
        congr 2
        ring
      rw [hdiv]
      exact quotient_halfEven n.digits (by positivity)
    · have hplaces : (n.scale - (n.scale - (k : ℤ))).toNat = k := by omega
      rw [hcut, Decimal.rescale, if_neg (by omega), hunit, value, hplaces, place_eq]

/-! ### The working precision -/

lemma inRange_value_iff {n : Decimal} (h : n.digits ≠ 0) :
    InRange (value n) ↔ n.exponent.natAbs ≤ Decimal.maxExponent := by
  have hexp := hasExponent_value h
  have hbound : |n.exponent| ≤ 6144 ↔ n.exponent.natAbs ≤ Decimal.maxExponent := by
    rw [Int.abs_eq_natAbs, Decimal.maxExponent]
    omega
  constructor
  · rintro (hz | ⟨e, he, hle⟩)
    · exact absurd hz hexp.ne_zero
    · obtain rfl := he.unique hexp
      exact hbound.mp hle
  · intro hle
    exact Or.inr ⟨n.exponent, hexp, hbound.mpr hle⟩

/-- The results of the library: numbers in normal form, rounded to 64 significant digits, with an
exponent in range. -/
theorem toWorking?_eq_some_iff (n r : Decimal) :
    n.toWorking? = some r ↔ IsRounded 64 (value n) (value r) ∧ InRange (value r) ∧ IsNormal r := by
  by_cases hz : n.digits = 0
  · rw [Decimal.toWorking?, if_pos hz, Option.some.injEq]
    constructor
    · rintro rfl
      exact ⟨Or.inl ⟨value_eq_zero.mpr hz, value_zero⟩, Or.inl value_zero, Or.inl rfl⟩
    · rintro ⟨hround, -, hnormal⟩
      have hr := (hround.eq_zero_iff (by norm_num)).mpr (value_eq_zero.mpr hz)
      exact eq_of_value_eq (Or.inl rfl) hnormal (by rw [value_zero, hr])
  · have hpos : 0 < Decimal.workingPrecision := by decide
    have hround := isRounded_roundSignificant hpos n
    rw [← value_normalize (n.roundSignificant _)] at hround
    have hz' : (n.roundSignificant Decimal.workingPrecision).normalize.digits ≠ 0 := by
      rw [Ne, ← value_eq_zero, hround.eq_zero_iff hpos, value_eq_zero]
      exact hz
    rw [Decimal.toWorking?, if_neg hz]
    constructor
    · intro h
      dsimp only at h
      split_ifs at h with hle
      obtain rfl := Option.some.inj h
      exact ⟨hround, (inRange_value_iff hz').mpr hle, isNormal_normalize _⟩
    · rintro ⟨hr, hrange, hnormal⟩
      obtain rfl : (n.roundSignificant Decimal.workingPrecision).normalize = r :=
        eq_of_value_eq (isNormal_normalize _) hnormal (hround.unique hr)
      exact if_pos ((inRange_value_iff hz').mp hrange)

end Feel.Proofs
