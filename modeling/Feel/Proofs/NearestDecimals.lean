import Feel.Operation.Arithmetic
import Feel.Proofs.HeldNumbers

/-!
# Nearest decimals

Numbers with at most so many significant digits lie more densely near zero, so that the nearest one is
not simply a multiple of one unit. It is that of the unit of the last digit all the same, because the
finer numbers below the leading power of ten are farther away than this power. So rounding to the working
precision gives the nearest number with 64 digits, the one with an even last digit if two are equally
near. Rounding keeps the order of numbers and does not change a number that is already rounded.
-/

namespace Feel.Proofs

/-- A number with at most so many significant digits. -/
def HasDigits (precision : ℕ) (x : ℚ) : Prop :=
  ∃ m k : ℤ, |m| < 10 ^ precision ∧ x = m * (10 : ℚ) ^ k

/-- A number that is written with exactly so many digits, the last of them even. -/
def EndsEven (precision : ℕ) (x : ℚ) : Prop :=
  ∃ m k : ℤ, 10 ^ (precision - 1) ≤ |m| ∧ |m| < 10 ^ precision ∧ Even m ∧ x = m * (10 : ℚ) ^ k

/-- The second number is nearest to the first one among all with so many digits, and ends in an even
digit if another one is as near. -/
structure IsNearest (precision : ℕ) (x y : ℚ) : Prop where
  hasDigits : HasDigits precision y
  abs_sub_le : ∀ z, HasDigits precision z → |x - y| ≤ |x - z|
  endsEven : ∀ z, HasDigits precision z → z ≠ y → |x - z| = |x - y| → EndsEven precision y

/-! ### Digits -/

lemma hasDigits_value_iff {p : ℕ} (hp : 0 < p) {n : Decimal} :
    HasDigits p (value n) ↔ n.normalize.digitCount ≤ p := by
  constructor
  · rintro ⟨m, k, hm, hn⟩
    have hvalue : value n = value ⟨m, -k⟩ := by rw [hn, value, neg_neg]
    rw [Int.abs_eq_natAbs] at hm
    exact digitCount_normalize_le hp hvalue (by exact_mod_cast hm.le)
  · intro h
    refine ⟨n.normalize.digits, -n.normalize.scale, ?_, by rw [← value_normalize]; rfl⟩
    have hlt := (lt_pow_count n.normalize.digits.natAbs).trans_le (Nat.pow_le_pow_right (by omega) h)
    rw [Int.abs_eq_natAbs]
    exact_mod_cast hlt

lemma hasDigits_of_abs_le {p : ℕ} (hp : 0 < p) {m : ℤ} (q : ℤ) (h : |m| ≤ 10 ^ p) :
    HasDigits p (m * (10 : ℚ) ^ q) := by
  have hvalue : value ⟨m, -q⟩ = m * (10 : ℚ) ^ q := by rw [value, neg_neg]
  rw [Int.abs_eq_natAbs] at h
  rw [← hvalue, hasDigits_value_iff hp]
  exact digitCount_normalize_le hp rfl (by exact_mod_cast h)

/-- Even multiples of a unit end in an even digit, the next power of ten included. -/
lemma endsEven_of_even {p : ℕ} (hp : 2 ≤ p) {m : ℤ} (q : ℤ) (hlo : 10 ^ (p - 1) ≤ |m|) (hhi : |m| ≤ 10 ^ p)
    (hm : Even m) : EndsEven p (m * (10 : ℚ) ^ q) := by
  obtain hlt | heq := lt_or_eq_of_le hhi
  · exact ⟨m, q, hlo, hlt, hm, rfl⟩
  · obtain ⟨k, rfl⟩ : 10 ∣ m := (dvd_abs 10 m).mp (heq ▸ dvd_pow_self 10 (by omega))
    have habs : |k| = 10 ^ (p - 1) := by
      rw [abs_mul, ← mul_pow_sub_one (by omega : p ≠ 0)] at heq
      exact mul_left_cancel₀ (by norm_num) heq
    have hlt : (10 : ℤ) ^ (p - 1) < 10 ^ p := pow_lt_pow_right₀ (by norm_num) (by omega)
    have heven : Even k := by
      rw [← even_abs, habs]
      exact Even.pow_of_ne_zero (by decide) (by omega)
    refine ⟨k, q + 1, habs.ge, habs.trans_lt hlt, heven, ?_⟩
    rw [ten_zpow_add, zpow_one]
    push_cast
    ring

lemma hasExponent_of_digits {p : ℕ} (hp : 0 < p) {m k : ℤ} (hlo : 10 ^ (p - 1) ≤ |m|)
    (hhi : |m| < 10 ^ p) : HasExponent (m * (10 : ℚ) ^ k) (k + p - 1) := by
  have hlo' : (10 : ℚ) ^ ((p - 1 : ℕ) : ℤ) ≤ |(m : ℚ)| := by
    rw [zpow_natCast]
    exact_mod_cast hlo
  have hhi' : |(m : ℚ)| < (10 : ℚ) ^ (p : ℤ) := by
    rw [zpow_natCast]
    exact_mod_cast hhi
  have hexp : k + p - 1 = ((p - 1 : ℕ) : ℤ) + k := by omega
  have hexp' : k + p - 1 + 1 = (p : ℤ) + k := by omega
  rw [HasExponent, abs_mul, abs_of_pos (ten_zpow_pos k), hexp', hexp, ten_zpow_add, ten_zpow_add]
  exact ⟨mul_le_mul_of_nonneg_right hlo' (ten_zpow_pos k).le, mul_lt_mul_of_pos_right hhi' (ten_zpow_pos k)⟩

/-- A number is written with so many digits in one way. -/
lemma EndsEven.even {p : ℕ} (hp : 0 < p) {j q : ℤ} (h : EndsEven p (j * (10 : ℚ) ^ q))
    (hlo : 10 ^ (p - 1) ≤ |j|) (hhi : |j| < 10 ^ p) : Even j := by
  obtain ⟨m, k, hmlo, hmhi, hm, heq⟩ := h
  have hexp := hasExponent_of_digits hp (k := q) hlo hhi
  rw [heq] at hexp
  have hunit : q = k := by
    have := hexp.unique (hasExponent_of_digits hp hmlo hmhi)
    omega
  rw [hunit] at heq
  have hdigits : j = m := Int.cast_injective (mul_right_cancel₀ (ten_zpow_ne_zero k) heq)
  rwa [hdigits]

/-- With so many digits a number is a multiple of a unit, or less than the last power of ten below which
there are finer ones. -/
lemma HasDigits.eq_mul_or_abs_lt {p : ℕ} {z : ℚ} (h : HasDigits p z) (q : ℤ) :
    (∃ j : ℤ, z = j * (10 : ℚ) ^ q) ∨ |z| < 10 ^ (q + p - 1) := by
  obtain ⟨m, k, hm, rfl⟩ := h
  obtain hle | hlt := le_or_gt q k
  · left
    obtain ⟨i, hi⟩ : ∃ i : ℕ, k = i + q := ⟨(k - q).toNat, by omega⟩
    refine ⟨m * 10 ^ i, ?_⟩
    rw [hi, ten_zpow_add, zpow_natCast]
    push_cast
    ring
  · right
    have hm' : |(m : ℚ)| < (10 : ℚ) ^ (p : ℤ) := by
      rw [zpow_natCast]
      exact_mod_cast hm
    rw [abs_mul, abs_of_pos (ten_zpow_pos k)]
    calc |(m : ℚ)| * 10 ^ k < 10 ^ (p : ℤ) * 10 ^ k := mul_lt_mul_of_pos_right hm' (ten_zpow_pos k)
      _ = 10 ^ (p + k) := (ten_zpow_add _ _).symm
      _ ≤ 10 ^ (q + p - 1) := zpow_le_zpow_right₀ (by norm_num) (by omega)

/-! ### Nearest whole numbers -/

lemma RoundsToEven.dist_le {t : ℚ} {m : ℤ} (h : RoundsToEven t m) (j : ℤ) : |t - m| ≤ |t - j| := by
  obtain rfl | hne := eq_or_ne j m
  · exact le_refl _
  · have hone : (1 : ℚ) ≤ |(m : ℚ) - j| := by
      exact_mod_cast Int.one_le_abs (sub_ne_zero.mpr hne.symm)
    have hdist := abs_sub_le (m : ℚ) t j
    rw [abs_sub_comm (m : ℚ) t] at hdist
    linarith [h.1]

/-- Another whole number that is as near is a neighbour, at distance one half. -/
lemma RoundsToEven.eq_half {t : ℚ} {m j : ℤ} (h : RoundsToEven t m) (hne : j ≠ m)
    (hdist : |t - j| = |t - m|) : |t - m| = 1 / 2 ∧ |j - m| = 1 := by
  have hsum := abs_sub_le (j : ℚ) t m
  rw [abs_sub_comm (j : ℚ) t, hdist] at hsum
  have hone : (1 : ℤ) ≤ |j - m| := Int.one_le_abs (sub_ne_zero.mpr hne)
  have hone' : (1 : ℚ) ≤ |(j : ℚ) - m| := by exact_mod_cast hone
  have hhalf : |t - m| = 1 / 2 := le_antisymm h.1 (by linarith)
  have hle : |(j : ℚ) - m| ≤ 1 := by linarith
  exact ⟨hhalf, le_antisymm (by exact_mod_cast hle) hone⟩

lemma abs_bounds_of_dist_le {t : ℚ} {j : ℤ} (h : |t - j| ≤ 1 / 2) (N : ℕ) :
    ((N : ℚ) ≤ |t| → (N : ℤ) ≤ |j|) ∧ (|t| < N → |j| ≤ N) := by
  have hle := abs_sub_abs_le_abs_sub t j
  have hge := abs_sub_abs_le_abs_sub (j : ℚ) t
  rw [abs_sub_comm (j : ℚ) t] at hge
  constructor
  · intro hN
    have hlt : (N : ℚ) < |(j : ℚ)| + 1 := by linarith
    exact Int.lt_add_one_iff.mp (by exact_mod_cast hlt)
  · intro hN
    have hlt : |(j : ℚ)| < N + 1 := by linarith
    exact Int.lt_add_one_iff.mp (by exact_mod_cast hlt)

/-- A number of smaller magnitude than a whole number that is reached is farther away than the nearest
whole number. -/
lemma RoundsToEven.dist_lt_of_abs_lt {t w : ℚ} {m : ℤ} {N : ℕ} (h : RoundsToEven t m) (ht : N ≤ |t|)
    (hw : |w| < N) : |t - m| < |t - w| := by
  have hreached : ∃ j : ℤ, |t - j| = |t| - N := by
    obtain hpos | hneg := le_total 0 t
    · rw [abs_of_nonneg hpos] at ht ⊢
      exact ⟨N, abs_of_nonneg (sub_nonneg.mpr ht)⟩
    · rw [abs_of_nonpos hneg] at ht ⊢
      refine ⟨-N, ?_⟩
      push_cast
      rw [abs_of_nonpos (by linarith)]
      ring
  obtain ⟨j, hj⟩ := hreached
  calc |t - m| ≤ |t - j| := h.dist_le j
    _ = |t| - N := hj
    _ < |t| - |w| := by linarith
    _ ≤ |t - w| := abs_sub_abs_le_abs_sub t w

/-! ### Nearest decimals -/

/-- A rounded number in units of its last place. -/
structure InUnits (p : ℕ) (x y : ℚ) (q : ℤ) (t : ℚ) (m : ℤ) : Prop where
  eq_mul : x = t * 10 ^ q
  rounded_eq_mul : y = m * 10 ^ q
  le_abs : ((10 ^ (p - 1) : ℕ) : ℚ) ≤ |t|
  abs_lt : |t| < (10 ^ p : ℕ)
  rounds : RoundsToEven t m

lemma IsRounded.exists_inUnits {p : ℕ} (hp : 0 < p) {x y : ℚ} (h : IsRounded p x y) (hx : x ≠ 0) :
    ∃ q t m, InUnits p x y q t m := by
  obtain ⟨rfl, -⟩ | ⟨e, m, he, hm, rfl⟩ := h
  · exact absurd rfl hx
  · have hexp : e = ((p - 1 : ℕ) : ℤ) + (e + 1 - p) := by omega
    have hexp' : e + 1 = (p : ℤ) + (e + 1 - p) := by omega
    refine ⟨e + 1 - p, x / 10 ^ (e + 1 - p), m, (div_mul_cancel₀ x (ten_zpow_ne_zero _)).symm, rfl, ?_, ?_, hm⟩
    · have hlo := he.1
      rw [hexp, ten_zpow_add] at hlo
      rw [abs_div, abs_of_pos (ten_zpow_pos _), le_div_iff₀ (ten_zpow_pos _)]
      exact_mod_cast hlo
    · have hhi := he.2
      rw [hexp', ten_zpow_add] at hhi
      rw [abs_div, abs_of_pos (ten_zpow_pos _), div_lt_iff₀ (ten_zpow_pos _)]
      exact_mod_cast hhi

lemma abs_mul_sub_mul (a b : ℚ) (q : ℤ) : |a * 10 ^ q - b * 10 ^ q| = |a - b| * 10 ^ q := by
  rw [← sub_mul, abs_mul, abs_of_pos (ten_zpow_pos q)]

section InUnits

variable {p : ℕ} {x y : ℚ} {q : ℤ} {t : ℚ} {m : ℤ}

lemma InUnits.abs_bounds (h : InUnits p x y q t m) : 10 ^ (p - 1) ≤ |m| ∧ |m| ≤ 10 ^ p := by
  have hlo := (abs_bounds_of_dist_le h.rounds.1 _).1 h.le_abs
  have hhi := (abs_bounds_of_dist_le h.rounds.1 _).2 h.abs_lt
  exact ⟨by exact_mod_cast hlo, by exact_mod_cast hhi⟩

lemma InUnits.dist_mul (h : InUnits p x y q t m) (j : ℤ) : |x - j * 10 ^ q| = |t - j| * 10 ^ q := by
  rw [h.eq_mul, abs_mul_sub_mul]

lemma InUnits.dist (h : InUnits p x y q t m) : |x - y| = |t - m| * 10 ^ q := by
  rw [h.rounded_eq_mul, h.dist_mul]

/-- Any other number with so many digits is a multiple of the unit too, or farther away. -/
lemma InUnits.eq_mul_or_dist_lt (h : InUnits p x y q t m) (hp : 0 < p) {z : ℚ} (hz : HasDigits p z) :
    (∃ j : ℤ, z = j * (10 : ℚ) ^ q) ∨ |x - y| < |x - z| := by
  obtain hmul | hlt := hz.eq_mul_or_abs_lt q
  · exact Or.inl hmul
  · right
    have hexp : q + p - 1 = ((p - 1 : ℕ) : ℤ) + q := by omega
    have hsmall : |z / 10 ^ q| < (10 ^ (p - 1) : ℕ) := by
      rw [hexp, ten_zpow_add, zpow_natCast] at hlt
      rw [abs_div, abs_of_pos (ten_zpow_pos q), div_lt_iff₀ (ten_zpow_pos q)]
      exact_mod_cast hlt
    calc |x - y| = |t - m| * 10 ^ q := h.dist
      _ < |t - z / 10 ^ q| * 10 ^ q :=
        mul_lt_mul_of_pos_right (h.rounds.dist_lt_of_abs_lt h.le_abs hsmall) (ten_zpow_pos q)
      _ = |x - z| := by
        rw [← abs_mul_sub_mul, div_mul_cancel₀ _ (ten_zpow_ne_zero q), ← h.eq_mul]

/-- Another number with so many digits that is as near is the neighbouring multiple of the unit, half a
unit away. -/
lemma InUnits.exists_neighbour (h : InUnits p x y q t m) (hp : 0 < p) {z : ℚ} (hz : HasDigits p z)
    (hne : z ≠ y) (hdist : |x - z| = |x - y|) :
    ∃ j : ℤ, z = j * (10 : ℚ) ^ q ∧ |t - j| = 1 / 2 ∧ |t - m| = 1 / 2 ∧ |j - m| = 1 := by
  obtain ⟨j, rfl⟩ | hlt := h.eq_mul_or_dist_lt hp hz
  · have hjm : j ≠ m := by
      rintro rfl
      exact hne h.rounded_eq_mul.symm
    rw [h.dist_mul, h.dist] at hdist
    have hsame := mul_right_cancel₀ (ten_zpow_ne_zero q) hdist
    obtain ⟨hhalf, hone⟩ := h.rounds.eq_half hjm hsame
    exact ⟨j, rfl, hsame.trans hhalf, hhalf, hone⟩
  · exact absurd hdist hlt.ne'

lemma InUnits.isNearest (h : InUnits p x y q t m) (hp : 2 ≤ p) : IsNearest p x y := by
  obtain ⟨hlo, hhi⟩ := h.abs_bounds
  refine ⟨?_, fun z hz => ?_, fun z hz hne hdist => ?_⟩
  · rw [h.rounded_eq_mul]
    exact hasDigits_of_abs_le (by omega) q hhi
  · obtain ⟨j, rfl⟩ | hlt := h.eq_mul_or_dist_lt (by omega) hz
    · rw [h.dist, h.dist_mul]
      exact mul_le_mul_of_nonneg_right (h.rounds.dist_le j) (ten_zpow_pos q).le
    · exact hlt.le
  · obtain ⟨j, -, -, hhalf, -⟩ := h.exists_neighbour (by omega) hz hne hdist
    rw [h.rounded_eq_mul]
    exact endsEven_of_even hp q hlo hhi (h.rounds.2 hhalf)

/-- Of two neighbouring multiples of the unit only one ends in an even digit. -/
lemma InUnits.eq_of_isNearest (h : InUnits p x y q t m) (hp : 2 ≤ p) {z : ℚ} (hz : IsNearest p x z) :
    z = y := by
  by_contra hne
  have hy := h.isNearest hp
  have hdist : |x - z| = |x - y| :=
    le_antisymm (hz.abs_sub_le y hy.hasDigits) (hy.abs_sub_le z hz.hasDigits)
  have hends := hz.endsEven y hy.hasDigits (Ne.symm hne) hdist.symm
  obtain ⟨j, rfl, hjhalf, hhalf, hone⟩ := h.exists_neighbour (by omega) hz.hasDigits hne hdist
  -- The two candidates are neighbours, and rounding has taken the even one.
  have hm := h.rounds.2 hhalf
  have hodd : ¬Even j := by
    rw [Int.even_iff] at hm ⊢
    rw [abs_eq (by decide)] at hone
    omega
  obtain hbounds := abs_bounds_of_dist_le hjhalf.le
  have hlo := (hbounds _).1 h.le_abs
  have hhi := (hbounds _).2 h.abs_lt
  -- The next power of ten would be written with other digits, but it is even.
  have hpow : |j| ≠ 10 ^ p := by
    intro heq
    refine hodd (even_abs.mp ?_)
    rw [heq]
    exact Even.pow_of_ne_zero (by decide) (by omega)
  push_cast at hlo hhi
  exact hodd (hends.even (by omega) hlo (lt_of_le_of_ne hhi hpow))

end InUnits

lemma isNearest_self {p : ℕ} {x : ℚ} (h : HasDigits p x) : IsNearest p x x := by
  refine ⟨h, fun z _ => ?_, fun z _ hne hdist => ?_⟩
  · rw [sub_self, abs_zero]
    exact abs_nonneg _
  · rw [sub_self, abs_zero, abs_eq_zero, sub_eq_zero] at hdist
    exact absurd hdist.symm hne

lemma IsNearest.eq_of_hasDigits {p : ℕ} {x y : ℚ} (h : IsNearest p x y) (hx : HasDigits p x) : y = x := by
  have hle := h.abs_sub_le x hx
  rw [sub_self, abs_zero, abs_nonpos_iff, sub_eq_zero] at hle
  exact hle.symm

lemma hasDigits_zero (p : ℕ) : HasDigits p 0 := ⟨0, 0, by simp, by simp⟩

lemma IsNearest.eq_zero {p : ℕ} {y : ℚ} (h : IsNearest p 0 y) : y = 0 := by
  have hle := h.abs_sub_le 0 (hasDigits_zero p)
  rw [zero_sub, abs_neg, sub_zero, abs_zero] at hle
  exact abs_nonpos_iff.mp hle

lemma IsRounded.isNearest {p : ℕ} (hp : 2 ≤ p) {x y : ℚ} (h : IsRounded p x y) : IsNearest p x y := by
  by_cases hx : x = 0
  · subst hx
    rw [(h.eq_zero_iff (by omega)).mpr rfl]
    exact isNearest_self (hasDigits_zero p)
  · obtain ⟨q, t, m, hunits⟩ := h.exists_inUnits (by omega) hx
    exact hunits.isNearest hp

lemma IsRounded.eq_of_isNearest {p : ℕ} (hp : 2 ≤ p) {x y z : ℚ} (h : IsRounded p x y)
    (hz : IsNearest p x z) : z = y := by
  by_cases hx : x = 0
  · subst hx
    rw [hz.eq_zero, (h.eq_zero_iff (by omega)).mpr rfl]
  · obtain ⟨q, t, m, hunits⟩ := h.exists_inUnits (by omega) hx
    exact hunits.eq_of_isNearest hp hz

lemma isNearest_iff {p : ℕ} (hp : 2 ≤ p) {n : Decimal} {y : ℚ} :
    IsNearest p (value n) y ↔ IsRounded p (value n) y := by
  constructor
  · intro h
    have hround := isRounded_roundSignificant (by omega : 0 < p) n
    rw [hround.eq_of_isNearest hp h]
    exact hround
  · exact fun h => h.isNearest hp

/-- Rounding keeps the order: a number that is nearer to the smaller one of two does not exceed a number
that is nearer to the greater one. -/
lemma IsNearest.le_of_le {p : ℕ} (hp : 2 ≤ p) {a b : Decimal} {y z : ℚ} (hy : IsNearest p (value a) y)
    (hz : IsNearest p (value b) z) (h : value a ≤ value b) : y ≤ z := by
  by_contra hlt
  have ha := sq_le_sq.mpr (hy.abs_sub_le z hz.hasDigits)
  have hb := sq_le_sq.mpr (hz.abs_sub_le y hy.hasDigits)
  -- The first number is not below the middle of the two results, the second one is not above it.
  have hmiddle : y + z ≤ 2 * value a := by nlinarith
  have hmiddle' : 2 * value b ≤ y + z := by nlinarith
  have hsame : value a = value b := by linarith
  rw [← hsame] at hz
  rw [isNearest_iff hp] at hy hz
  exact hlt (hy.unique hz).le

lemma existsUnique_isNearest {p : ℕ} (hp : 2 ≤ p) (n : Decimal) : ∃! y, IsNearest p (value n) y := by
  have hround := isRounded_roundSignificant (by omega : 0 < p) n
  exact ⟨_, hround.isNearest hp, fun z hz => hround.eq_of_isNearest hp hz⟩

/-! ### The working precision -/

lemma working_eq_ok_iff {n r : Decimal} :
    Operation.working n = .ok r ↔ IsNearest 64 (value n) (value r) ∧ InRange (value r) ∧ IsNormal r := by
  rw [isNearest_iff (by decide), ← toWorking?_eq_some_iff, Operation.working]
  cases n.toWorking? <;> simp

lemma working_eq_overflow_iff {n : Decimal} :
    Operation.working n = .error .overflow ↔ ∀ r, Operation.working n ≠ .ok r := by
  rw [Operation.working]
  cases n.toWorking? <;> simp

/-- The nearest number is given unless its exponent is out of range. -/
lemma working_of_isNearest {n : Decimal} {y : ℚ} (h : IsNearest 64 (value n) y) :
    (InRange y → ∃ r, Operation.working n = .ok r ∧ value r = y) ∧
      (¬InRange y → Operation.working n = .error .overflow) := by
  have hround := (isNearest_iff (by decide)).mp h
  constructor
  · intro hrange
    have hself := isRounded_roundSignificant (by decide : 0 < 64) n
    have hvalue : value (n.roundSignificant 64).normalize = y := by
      rw [value_normalize]
      exact hself.unique hround
    refine ⟨(n.roundSignificant 64).normalize, working_eq_ok_iff.mpr ?_, hvalue⟩
    rw [hvalue]
    exact ⟨h, hrange, isNormal_normalize _⟩
  · intro hrange
    rw [working_eq_overflow_iff]
    intro r hr
    obtain ⟨hnearest, hrange', -⟩ := working_eq_ok_iff.mp hr
    rw [isNearest_iff (by decide)] at hnearest
    rw [hnearest.unique hround] at hrange'
    exact hrange hrange'

lemma working_congr {a b : Decimal} (h : value a = value b) : Operation.working a = Operation.working b := by
  have hsame : a.toWorking? = b.toWorking? := by
    ext r
    rw [toWorking?_eq_some_iff, toWorking?_eq_some_iff, h]
  rw [Operation.working, Operation.working, hsame]

lemma working_working {n r : Decimal} (h : Operation.working n = .ok r) : Operation.working r = .ok r := by
  obtain ⟨hnearest, hrange, hnormal⟩ := working_eq_ok_iff.mp h
  have hdigits := (hasDigits_value_iff (by decide)).mp hnearest.hasDigits
  rw [Operation.working, toWorking?_eq_normalize ⟨hdigits, hrange⟩ rfl, normalize_eq_self hnormal]

/-- Sixty-five nines, just below the power of ten that is out of range. -/
def tooLargeRounded : Decimal := ⟨10 ^ 65 - 1, -6080⟩

/-- Sixty-five nines, just below the least power of ten that is in range. -/
def smallRounded : Decimal := ⟨10 ^ 65 - 1, 6209⟩

lemma value_tooLargeRounded_lt : value tooLargeRounded < 10 ^ (6145 : ℤ) := by
  have hpow : (10 : ℚ) ^ (6145 : ℤ) = 10 ^ 65 * 10 ^ (6080 : ℤ) := by
    rw [← zpow_natCast, ← ten_zpow_add]
    norm_num
  rw [hpow]
  exact mul_lt_mul_of_pos_right (by norm_num [tooLargeRounded]) (ten_zpow_pos _)

lemma value_smallRounded_lt : value smallRounded < 10 ^ (-6144 : ℤ) := by
  have hpow : (10 : ℚ) ^ (-6144 : ℤ) = 10 ^ 65 * 10 ^ (-6209 : ℤ) := by
    rw [← zpow_natCast, ← ten_zpow_add]
    norm_num
  rw [hpow]
  exact mul_lt_mul_of_pos_right (by norm_num [smallRounded]) (ten_zpow_pos _)

/-- Rounding to the working precision gives the nearest number with 64 digits, in normal form, unless its
exponent is out of range. It depends on the value alone, does not change its own results and keeps the
order. Whether there is a result is decided after rounding, so that numbers just below a power of ten may
leave the range or come into it. -/
theorem working_isNearest :
    (∀ n, ∃! y, IsNearest 64 (value n) y) ∧
      (∀ n r, Operation.working n = .ok r ↔
        IsNearest 64 (value n) (value r) ∧ InRange (value r) ∧ IsNormal r) ∧
      (∀ n y, IsNearest 64 (value n) y →
        (InRange y → ∃ r, Operation.working n = .ok r ∧ value r = y) ∧
          (¬InRange y → Operation.working n = .error .overflow)) ∧
      (∀ n, value n = 0 → Operation.working n = .ok .zero) ∧
      (∀ a b, value a = value b → Operation.working a = Operation.working b) ∧
      (∀ n r, Operation.working n = .ok r → Operation.working r = .ok r) ∧
      (∀ a b r s, value a ≤ value b → Operation.working a = .ok r → Operation.working b = .ok s →
        value r ≤ value s) ∧
      (∃ n, value n < 10 ^ (6145 : ℤ) ∧ InRange (value n) ∧ Operation.working n = .error .overflow) ∧
      ∃ n r, value n < 10 ^ (-6144 : ℤ) ∧ ¬InRange (value n) ∧ Operation.working n = .ok r ∧
        value r = 10 ^ (-6144 : ℤ) := by
  refine ⟨existsUnique_isNearest (by decide), fun n r => working_eq_ok_iff,
    fun n y => working_of_isNearest, ?_, fun a b => working_congr, fun n r => working_working, ?_, ?_, ?_⟩
  · intro n hn
    rw [Operation.working, Decimal.toWorking?, if_pos (value_eq_zero.mp hn)]
  · intro a b r s hle hr hs
    exact (working_eq_ok_iff.mp hr).1.le_of_le (by decide) (working_eq_ok_iff.mp hs).1 hle
  · refine ⟨tooLargeRounded, value_tooLargeRounded_lt, ?_, by decide +kernel⟩
    exact (inRange_value_iff (by decide)).mpr (by decide +kernel)
  · refine ⟨smallRounded, ⟨1, 6144⟩, value_smallRounded_lt, ?_, by decide +kernel, ?_⟩
    · rw [inRange_value_iff (by decide)]
      decide +kernel
    · rw [value, Int.cast_one, one_mul]

/-- Half way between two numbers with 64 digits, the one with an even last digit is given, in whatever
form the number is held. Rounding keeps its order to a greater number, which is rounded up. -/
theorem working_isNearest_halfWay :
    Operation.working ⟨10 ^ 64 + 5, 0⟩ = .ok ⟨1, -64⟩ ∧
      IsNearest 64 (value ⟨10 ^ 64 + 5, 0⟩) (value ⟨1, -64⟩) ∧
      value ⟨10 ^ 65 + 50, 1⟩ = value ⟨10 ^ 64 + 5, 0⟩ ∧
      Operation.working ⟨10 ^ 65 + 50, 1⟩ = .ok ⟨1, -64⟩ ∧
      Operation.working ⟨1, -64⟩ = .ok ⟨1, -64⟩ ∧
      value ⟨10 ^ 64 + 5, 0⟩ ≤ value ⟨10 ^ 65 - 1, 0⟩ ∧
      Operation.working ⟨10 ^ 65 - 1, 0⟩ = .ok ⟨1, -65⟩ ∧ value ⟨1, -64⟩ ≤ value ⟨1, -65⟩ ∧
      value ⟨0, 7⟩ = 0 ∧ Operation.working ⟨0, 7⟩ = .ok .zero := by
  obtain ⟨-, hiff, -, hzero, hcongr, hidem, hmono, -⟩ := working_isNearest
  have hhalf : Operation.working ⟨10 ^ 64 + 5, 0⟩ = .ok ⟨1, -64⟩ := by decide +kernel
  have hnines : Operation.working ⟨10 ^ 65 - 1, 0⟩ = .ok ⟨1, -65⟩ := by decide +kernel
  have hform : value ⟨10 ^ 65 + 50, 1⟩ = value ⟨10 ^ 64 + 5, 0⟩ := by norm_num [value]
  have hle : value ⟨10 ^ 64 + 5, 0⟩ ≤ value ⟨10 ^ 65 - 1, 0⟩ := by norm_num [value]
  have hnought : value ⟨0, 7⟩ = 0 := value_eq_zero.mpr rfl
  exact ⟨hhalf, ((hiff _ _).mp hhalf).1, hform, (hcongr _ _ hform).trans hhalf, hidem _ _ hhalf, hle,
    hnines, hmono _ _ _ _ hle hhalf hnines, hnought, hzero _ hnought⟩

end Feel.Proofs
