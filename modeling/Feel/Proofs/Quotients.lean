import Feel.Proofs.NearestDecimals

/-!
# Quotients

Long division gives the quotient of two decimals exactly, or the nearest number with a hundred significant
digits. That number lies on the same side of every number with few digits as the quotient itself. If the
quotient is that of a number with 64 digits by a small count, it is so far from every midpoint between
numbers with 64 digits, unless it is one, that rounding the hundred digits to 64 gives the same number as
rounding the quotient at once.
-/

namespace Feel.Proofs

/-- The decimal is the number, or differs from it by at most half a unit of its last digit, of which it has
a hundred. -/
structure IsQuotient (x : ℚ) (q : Decimal) : Prop where
  near : |x * 10 ^ q.scale - q.digits| ≤ 1 / 2
  exact_or_long : x * 10 ^ q.scale = q.digits ∨ 10 ^ 99 ≤ |x * 10 ^ q.scale|

/-- No half of a whole number is between the two numbers or equal to just one of them. -/
def SameSides (t u : ℚ) : Prop := ∀ h : ℤ, (2 * t < h ↔ 2 * u < h) ∧ (h < 2 * t ↔ h < 2 * u)

lemma ten_zpow_mul_neg (e : ℤ) : (10 : ℚ) ^ e * 10 ^ (-e) = 1 := by
  rw [← ten_zpow_add, add_neg_cancel, zpow_zero]

/-! ### Long division -/

/-- Multiplying by ten keeps the number and ends at the divisor or above it, unless the number is zero. -/
lemma shiftUp_spec (num den : ℕ) (scale : ℤ) :
    ((Decimal.shiftUp num den scale).1 : ℚ) * 10 ^ (-(Decimal.shiftUp num den scale).2) =
        num * 10 ^ (-scale) ∧
      ((Decimal.shiftUp num den scale).1 = 0 ∨ den ≤ (Decimal.shiftUp num den scale).1) := by
  fun_induction Decimal.shiftUp num den scale with
  | case1 num scale h ih =>
    refine ⟨ih.1.trans ?_, ih.2⟩
    have hexp : -scale = 1 + -(scale + 1) := by ring
    rw [hexp, ten_zpow_add, zpow_one]
    push_cast
    ring
  | case2 num scale h =>
    exact ⟨rfl, by dsimp only; omega⟩

/-- The digits found and the rest make up the dividend, moved by as many places as there are new digits.
The division ends without a rest or with all its places filled. -/
lemma longDivision_spec {den : ℕ} (hden : 0 < den) (places quotient rest : ℕ) (scale : ℤ) (hrest : rest < den) :
    ∃ k q r, Decimal.longDivision den places quotient rest scale = (q, r, scale + (k : ℕ)) ∧
      q * den + r = (quotient * den + rest) * 10 ^ k ∧ r < den ∧ (r = 0 ∨ k = places) := by
  induction places generalizing quotient rest scale with
  | zero => exact ⟨0, quotient, rest, by simp [Decimal.longDivision], by simp, hrest, Or.inr rfl⟩
  | succ places ih =>
    by_cases hzero : rest = 0
    · exact ⟨0, quotient, rest, by simp [Decimal.longDivision, hzero], by simp, hrest, Or.inl hzero⟩
    · obtain ⟨k, q, r, heq, hsum, hr, hend⟩ := ih (10 * quotient + 10 * rest / den) (10 * rest % den)
        (scale + 1) (Nat.mod_lt _ hden)
      refine ⟨k + 1, q, r, ?_, ?_, hr, hend.imp_right (congrArg (· + 1))⟩
      · rw [Decimal.longDivision, if_neg hzero, heq]
        push_cast
        ring_nf
      · have hdigit := Nat.div_add_mod (10 * rest) den
        calc q * den + r = ((10 * quotient + 10 * rest / den) * den + 10 * rest % den) * 10 ^ k := hsum
          _ = (10 * quotient * den + (den * (10 * rest / den) + 10 * rest % den)) * 10 ^ k := by ring
          _ = (quotient * den + rest) * 10 ^ (k + 1) := by
            rw [hdigit]
            ring

/-- A whole number and as many further digits as it lacks have a hundred digits together. -/
lemma pow_le_of_places {den n k q r : ℕ} (hn : den ≤ n) (hden : 0 < den)
    (hk : k = Decimal.quotientPrecision - Digits.count (n / den)) (hr : r < den)
    (hsum : q * den + r = n * 10 ^ k) : 10 ^ 99 ≤ q := by
  have hwhole : 10 ^ (Digits.count (n / den) - 1) ≤ n / den := pow_count_le (Nat.div_pos hn hden)
  have hcount := count_pos (n / den)
  have hquotient : n / den * 10 ^ k ≤ q := by
    have hle : n / den * 10 ^ k * den ≤ n * 10 ^ k := by
      rw [mul_right_comm]
      exact Nat.mul_le_mul_right _ (Nat.div_mul_le_self n den)
    have hlt : n / den * 10 ^ k * den < (q + 1) * den := by
      rw [add_mul, one_mul]
      omega
    exact Nat.lt_add_one_iff.mp (Nat.lt_of_mul_lt_mul_right hlt)
  calc 10 ^ 99 ≤ 10 ^ (Digits.count (n / den) - 1 + k) := by
        apply Nat.pow_le_pow_right (by omega)
        unfold Decimal.quotientPrecision at hk
        omega
    _ = 10 ^ (Digits.count (n / den) - 1) * 10 ^ k := pow_add _ _ _
    _ ≤ n / den * 10 ^ k := Nat.mul_le_mul_right _ hwhole
    _ ≤ q := hquotient

/-- Half of the unit of the last digit is rounded up. -/
lemma abs_div_sub_rounded_le {den r : ℕ} (hden : 0 < den) (hr : r < den) :
    |(r : ℚ) / den - if r ≠ 0 ∧ 5 ≤ 10 * r / den then 1 else 0| ≤ 1 / 2 := by
  have hden' : (0 : ℚ) < den := by exact_mod_cast hden
  have hdigit : 5 ≤ 10 * r / den ↔ den ≤ 2 * r := by
    rw [Nat.le_div_iff_mul_le hden]
    omega
  have hnonneg : (0 : ℚ) ≤ r := Nat.cast_nonneg r
  have hr' : (r : ℚ) ≤ den := by exact_mod_cast hr.le
  rw [abs_le, le_sub_iff_add_le, sub_le_iff_le_add, le_div_iff₀ hden', div_le_iff₀ hden']
  split_ifs with hup <;> rw [hdigit] at hup
  · have hhalf : (den : ℚ) ≤ 2 * r := by exact_mod_cast hup.2
    constructor <;> linarith
  · have hhalf : (2 * r : ℚ) ≤ den := by exact_mod_cast (by omega : 2 * r ≤ den)
    constructor <;> linarith

lemma divMagnitude_spec (num : ℕ) {den : ℕ} (scale : ℤ) (hden : 0 < den) :
    IsQuotient (num / den * 10 ^ (-scale))
      ⟨(Decimal.divMagnitude num den scale).1, (Decimal.divMagnitude num den scale).2⟩ := by
  have hden' : (den : ℚ) ≠ 0 := by exact_mod_cast hden.ne'
  obtain ⟨hvalue, hreached⟩ := shiftUp_spec num den scale
  unfold Decimal.divMagnitude
  generalize Decimal.shiftUp num den scale = shifted at hvalue hreached
  obtain ⟨n, s⟩ := shifted
  dsimp only at hvalue hreached ⊢
  obtain ⟨k, q, r, heq, hsum, hr, hend⟩ := longDivision_spec hden
    (Decimal.quotientPrecision - Digits.count (n / den)) (n / den) (n % den) s (Nat.mod_lt _ hden)
  rw [Nat.div_add_mod'] at hsum
  rw [heq]
  have hlong : r = 0 ∨ 10 ^ 99 ≤ q := by
    obtain rfl | hn := hreached
    · left
      have hzero : q * den + r = 0 := by rw [hsum, zero_mul]
      omega
    · exact hend.imp_right fun hk => pow_le_of_places hn hden hk hr hsum
  -- In units of the last digit the quotient exceeds the digits found by the rest.
  have hunits : (num : ℚ) / den * 10 ^ (-scale) * 10 ^ (s + k) = q + r / den := by
    have hsum' : (q : ℚ) * den + r = n * 10 ^ k := by exact_mod_cast hsum
    have hone := ten_zpow_mul_neg s
    rw [div_mul_eq_mul_div, ← hvalue, ten_zpow_add, zpow_natCast, eq_comm, ← mul_left_inj' hden', add_mul,
      div_mul_cancel₀ _ hden', hsum', div_mul_eq_mul_div, div_mul_cancel₀ _ hden']
    linear_combination (-n * 10 ^ k : ℚ) * hone
  have hround := abs_div_sub_rounded_le hden hr
  constructor <;> dsimp only <;> rw [hunits]
  · split_ifs at hround ⊢
    · push_cast
      rwa [add_sub_add_left_eq_sub]
    · rw [sub_zero] at hround
      rwa [Int.cast_natCast, add_sub_cancel_left]
  · obtain rfl | hlong := hlong
    · left
      simp
    · right
      have hrest : (0 : ℚ) ≤ r / den := div_nonneg (Nat.cast_nonneg _) (Nat.cast_nonneg _)
      have hq : (10 ^ 99 : ℚ) ≤ q := by exact_mod_cast hlong
      rw [abs_of_nonneg (by linarith)]
      linarith

lemma value_neg (m s : ℤ) : value ⟨-m, s⟩ = -value ⟨m, s⟩ := by
  rw [value, value, Int.cast_neg, neg_mul]

lemma HasDigits.neg {p : ℕ} {x : ℚ} (h : HasDigits p x) : HasDigits p (-x) := by
  obtain ⟨m, k, hm, rfl⟩ := h
  exact ⟨-m, k, by rwa [abs_neg], by rw [Int.cast_neg, neg_mul]⟩

lemma IsQuotient.neg {x : ℚ} {m s : ℤ} (h : IsQuotient x ⟨m, s⟩) : IsQuotient (-x) ⟨-m, s⟩ := by
  obtain ⟨hnear, hlong⟩ := h
  dsimp only at hnear hlong
  constructor <;> dsimp only <;> rw [neg_mul]
  · rw [Int.cast_neg, ← abs_neg]
    convert hnear using 2
    ring
  · rw [Int.cast_neg, neg_inj, abs_neg]
    exact hlong

/-- The sign of a quotient is that of the two signs together. -/
lemma div_eq_ite_natAbs (a b : ℤ) :
    (a : ℚ) / b = if (a < 0) = (b < 0) then (a.natAbs : ℚ) / b.natAbs else -((a.natAbs : ℚ) / b.natAbs) := by
  rw [Nat.cast_natAbs, Nat.cast_natAbs]
  obtain ha | ha := lt_or_ge a 0 <;> obtain hb | hb := lt_or_ge b 0
  · rw [if_pos (by simp [ha, hb]), abs_of_neg ha, abs_of_neg hb, Int.cast_neg, Int.cast_neg, neg_div_neg_eq]
  · rw [if_neg (by simp [ha, hb.not_gt]), abs_of_neg ha, abs_of_nonneg hb, Int.cast_neg, neg_div, neg_neg]
  · rw [if_neg (by simp [ha.not_gt, hb]), abs_of_nonneg ha, abs_of_neg hb, Int.cast_neg, div_neg, neg_neg]
  · rw [if_pos (by simp [ha.not_gt, hb.not_gt]), abs_of_nonneg ha, abs_of_nonneg hb]

lemma isQuotient_div (a : Decimal) {b : Decimal} (hb : b.digits ≠ 0) :
    IsQuotient (value a / value b) (a.div b) := by
  have hmagnitude := divMagnitude_spec a.digits.natAbs (a.scale - b.scale) (Int.natAbs_pos.mpr hb)
  have hvalue : value a / value b = a.digits / b.digits * (10 : ℚ) ^ (-(a.scale - b.scale)) := by
    have hexp : -(a.scale - b.scale) = -a.scale - -b.scale := by ring
    rw [value, value, mul_div_mul_comm, hexp, zpow_sub₀ (by norm_num)]
  rw [hvalue, div_eq_ite_natAbs]
  unfold Decimal.div
  dsimp only
  split_ifs with hsign
  · exact hmagnitude
  · rw [neg_mul]
    exact hmagnitude.neg

/-! ### The last digit -/

section IsQuotient

variable {x : ℚ} {q : Decimal}

lemma IsQuotient.value_sub (h : IsQuotient x q) : |value q - x| ≤ 1 / 2 * 10 ^ (-q.scale) := by
  have hunits : x = x * 10 ^ q.scale * 10 ^ (-q.scale) := by rw [mul_assoc, ten_zpow_mul_neg, mul_one]
  rw [abs_sub_comm, value]
  nth_rewrite 1 [hunits]
  rw [abs_mul_sub_mul]
  exact mul_le_mul_of_nonneg_right h.near (ten_zpow_pos _).le

/-- A multiple of the last digit's unit is given exactly. -/
lemma IsQuotient.value_eq {k : ℤ} (h : IsQuotient x q) (hk : x * 10 ^ q.scale = k) : value q = x := by
  have hnear := h.near
  rw [hk] at hnear
  have hlt : |(k : ℚ) - q.digits| < 1 := hnear.trans_lt (by norm_num)
  have hsame : k - q.digits = 0 := Int.abs_lt_one_iff.mp (by exact_mod_cast hlt)
  rw [value, ← sub_eq_zero.mp hsame, ← hk, mul_assoc, ten_zpow_mul_neg, mul_one]

/-- The relative error is at most half a unit in the hundredth digit. -/
lemma IsQuotient.abs_sub_le (h : IsQuotient x q) : |value q - x| ≤ |x| * (1 / 2 * 10 ^ (-99 : ℤ)) := by
  obtain hexact | hlong := h.exact_or_long
  · rw [h.value_eq hexact, sub_self, abs_zero]
    exact mul_nonneg (abs_nonneg _) (by norm_num)
  · rw [abs_mul, abs_of_pos (ten_zpow_pos _)] at hlong
    have hunit : (10 : ℚ) ^ (-q.scale) ≤ |x| * 10 ^ (-99 : ℤ) := by
      calc (10 : ℚ) ^ (-q.scale) = 10 ^ 99 * 10 ^ (-q.scale) * 10 ^ (-99 : ℤ) := by
            rw [mul_right_comm, ← zpow_natCast, ← ten_zpow_add]
            norm_num
        _ ≤ |x| * 10 ^ q.scale * 10 ^ (-q.scale) * 10 ^ (-99 : ℤ) := by gcongr
        _ = |x| * 10 ^ (-99 : ℤ) := by
            rw [mul_assoc |x|, ten_zpow_mul_neg, mul_one]
    calc |value q - x| ≤ 1 / 2 * 10 ^ (-q.scale) := h.value_sub
      _ ≤ 1 / 2 * (|x| * 10 ^ (-99 : ℤ)) := mul_le_mul_of_nonneg_left hunit (by norm_num)
      _ = |x| * (1 / 2 * 10 ^ (-99 : ℤ)) := mul_left_comm _ _ _

/-- Numbers with 64 digits are multiples of the last digit's unit or far closer to zero, so that rounding
does not pass them. -/
lemma IsQuotient.le_of_hasDigits {z : ℚ} (h : IsQuotient x q) (hz : HasDigits 64 z) (hle : x ≤ z) :
    value q ≤ z := by
  obtain hexact | hlong := h.exact_or_long
  · rw [h.value_eq hexact]
    exact hle
  · have hunits : x * 10 ^ q.scale ≤ z * 10 ^ q.scale := mul_le_mul_of_nonneg_right hle (ten_zpow_pos _).le
    have hnear := abs_le.mp h.near
    have hback : z = z * 10 ^ q.scale * 10 ^ (-q.scale) := by rw [mul_assoc, ten_zpow_mul_neg, mul_one]
    suffices hdigits : (q.digits : ℚ) ≤ z * 10 ^ q.scale by
      rw [hback]
      exact mul_le_mul_of_nonneg_right hdigits (ten_zpow_pos _).le
    obtain ⟨j, hj⟩ | hlt := hz.eq_mul_or_abs_lt (-q.scale)
    · have hwhole : z * 10 ^ q.scale = j := by
        rw [hj, mul_assoc, mul_comm _ (10 ^ q.scale : ℚ), ten_zpow_mul_neg, mul_one]
      rw [hwhole] at hunits ⊢
      have hdigits : (q.digits : ℚ) < j + 1 := by linarith
      exact_mod_cast Int.lt_add_one_iff.mp (by exact_mod_cast hdigits)
    · -- Then the quotient is below zero, with many more digits before the point.
      have hexp : -q.scale + (64 : ℕ) - 1 = (63 : ℕ) + -q.scale := by
        push_cast
        ring
      have hsmall : |z * 10 ^ q.scale| < 10 ^ 63 := by
        rw [hexp, ten_zpow_add, zpow_natCast, zpow_neg, ← div_eq_mul_inv, lt_div_iff₀ (ten_zpow_pos _)] at hlt
        rwa [abs_mul, abs_of_pos (ten_zpow_pos _)]
      have hsmall := abs_lt.mp hsmall
      obtain hpos | hneg := le_abs.mp hlong
      · linarith
      · linarith

lemma IsQuotient.ge_of_hasDigits {z : ℚ} (h : IsQuotient x q) (hz : HasDigits 64 z) (hle : z ≤ x) :
    z ≤ value q := by
  have hneg := h.neg.le_of_hasDigits hz.neg (neg_le_neg hle)
  rw [value_neg] at hneg
  exact neg_le_neg_iff.mp hneg

end IsQuotient

/-! ### Midpoints -/

section SameSides

variable {t u : ℚ}

/-- A fraction with a small denominator is farther from every half of a whole number that it is not equal to
than from a number that is near. -/
lemma sameSides_of_near {c : ℕ} {j : ℤ} (hc : 0 < c) (hj : t * c = j) (hnear : 2 * |t - u| * c < 1)
    (hexact : ∀ h : ℤ, 2 * t = h → u = t) : SameSides t u := by
  intro h
  by_cases heq : 2 * t = h
  · rw [hexact h heq]
    exact ⟨Iff.rfl, Iff.rfl⟩
  · have hc' : (0 : ℚ) < c := by exact_mod_cast hc
    have hunits : |2 * t - h| * c = |((2 * j - h * c : ℤ) : ℚ)| := by
      push_cast
      rw [← hj, ← abs_of_pos hc', ← abs_mul, abs_of_pos hc']
      congr 1
      ring
    have hone : 1 ≤ |2 * t - h| * c := by
      have hne : 2 * j - h * c ≠ 0 := by
        intro hzero
        rw [hzero, Int.cast_zero, abs_zero, mul_eq_zero, abs_eq_zero, sub_eq_zero] at hunits
        exact hunits.elim heq hc'.ne'
      rw [hunits]
      exact_mod_cast Int.one_le_abs hne
    have hcloser : 2 * |t - u| < |2 * t - h| := lt_of_mul_lt_mul_right (hnear.trans_le hone) hc'.le
    have hdist := abs_le.mp (le_refl |t - u|)
    obtain hlt | hgt := lt_or_gt_of_ne heq
    · rw [abs_of_neg (sub_neg.mpr hlt)] at hcloser
      exact ⟨iff_of_true hlt (by linarith), iff_of_false hlt.not_gt (by linarith)⟩
    · rw [abs_of_pos (sub_pos.mpr hgt)] at hcloser
      exact ⟨iff_of_false hgt.not_gt (by linarith), iff_of_true hgt (by linarith)⟩

lemma SameSides.abs_lt_iff (h : SameSides t u) (N : ℕ) : |t| < N ↔ |u| < N := by
  have hhi := (h (2 * N)).1
  have hlo := (h (-(2 * N))).2
  push_cast at hhi hlo
  rw [abs_lt, abs_lt]
  constructor
  · rintro ⟨h₁, h₂⟩
    have hu₁ := hlo.mp (by linarith)
    have hu₂ := hhi.mp (by linarith)
    constructor <;> linarith
  · rintro ⟨h₁, h₂⟩
    have ht₁ := hlo.mpr (by linarith)
    have ht₂ := hhi.mpr (by linarith)
    constructor <;> linarith

lemma SameSides.roundsToEven {m : ℤ} (h : SameSides t u) (hm : RoundsToEven t m) : RoundsToEven u m := by
  obtain ⟨hlo, hlo'⟩ := h (2 * m - 1)
  obtain ⟨hhi, hhi'⟩ := h (2 * m + 1)
  push_cast at hlo hlo' hhi hhi'
  obtain ⟨hle, heven⟩ := hm
  rw [abs_le] at hle
  have hu : -(1 / 2) ≤ u - m ∧ u - m ≤ 1 / 2 := by
    constructor
    · by_contra hlt
      have := hlo.mpr (by linarith)
      linarith
    · by_contra hgt
      have := hhi'.mpr (by linarith)
      linarith
  refine ⟨abs_le.mpr hu, fun hhalf => heven ?_⟩
  -- Strictly between the two halves next to it, the first number would have the second one there too.
  by_contra hne
  have hstrict := abs_lt.mp (lt_of_le_of_ne (abs_le.mpr hle) hne)
  have hu₁ := hlo'.mp (by linarith)
  have hu₂ := hhi.mp (by linarith)
  have hlt : |u - m| < 1 / 2 := abs_lt.mpr ⟨by linarith, by linarith⟩
  exact hlt.ne hhalf

end SameSides

/-! ### Rounding the digits -/

lemma InUnits.isRounded {p : ℕ} {x y t : ℚ} {q m : ℤ} (hp : 0 < p) (h : InUnits p x y q t m) :
    IsRounded p x y := by
  have hexp : q + p - 1 + 1 - p = q := by ring
  have hexp' : q + p - 1 = ((p - 1 : ℕ) : ℤ) + q := by omega
  refine Or.inr ⟨q + p - 1, m, ⟨?_, ?_⟩, ?_, ?_⟩
  · rw [h.eq_mul, abs_mul, abs_of_pos (ten_zpow_pos q), hexp', ten_zpow_add, zpow_natCast]
    exact mul_le_mul_of_nonneg_right (by exact_mod_cast h.le_abs) (ten_zpow_pos q).le
  · rw [h.eq_mul, abs_mul, abs_of_pos (ten_zpow_pos q), sub_add_cancel, add_comm q, ten_zpow_add, zpow_natCast]
    exact mul_lt_mul_of_pos_right (by exact_mod_cast h.abs_lt) (ten_zpow_pos q)
  · rw [hexp, h.eq_mul, mul_div_cancel_right₀ _ (ten_zpow_ne_zero q)]
    exact h.rounds
  · rw [hexp]
    exact h.rounded_eq_mul

section Rounding

variable {x y t : ℚ} {e m : ℤ} {q : Decimal} {c : ℕ}

/-- A dividend of 64 digits is a multiple of the unit of the quotient's last digit. -/
lemma InUnits.exists_mul_eq (h : InUnits 64 x y e t m) (hc : 0 < c) (hdigits : HasDigits 64 (x * c)) :
    ∃ j : ℤ, t * c = j := by
  have hone : (1 : ℚ) ≤ c := by exact_mod_cast hc
  obtain ⟨j, hj⟩ | hlt := hdigits.eq_mul_or_abs_lt e
  · rw [h.eq_mul, mul_right_comm] at hj
    exact ⟨j, mul_right_cancel₀ (ten_zpow_ne_zero e) hj⟩
  · have hexp : e + (64 : ℕ) - 1 = (63 : ℕ) + e := by
      push_cast
      ring
    have hle : (10 ^ 63 : ℚ) ≤ |t| := by exact_mod_cast h.le_abs
    rw [hexp, ten_zpow_add, zpow_natCast, h.eq_mul, mul_right_comm, abs_mul, abs_of_pos (ten_zpow_pos e)] at hlt
    have hlt := lt_of_mul_lt_mul_right hlt (ten_zpow_pos e).le
    rw [abs_mul, abs_of_nonneg (zero_le_one.trans hone)] at hlt
    exact absurd (hle.trans (le_mul_of_one_le_right (abs_nonneg t) hone)) hlt.not_ge

variable (h : IsQuotient x q)

include h

/-- A midpoint between numbers with 64 digits has few digits itself, and so is found exactly. -/
lemma IsQuotient.value_eq_of_midpoint (hunits : InUnits 64 x y e t m) {k : ℤ} (hk : 2 * t = k) :
    value q = x := by
  obtain hexact | hlong := h.exact_or_long
  · exact h.value_eq hexact
  · have hlt : (10 : ℚ) ^ 99 < 10 ^ (64 + (e + q.scale)) := by
      rw [hunits.eq_mul, mul_assoc, ← ten_zpow_add, abs_mul, abs_of_pos (ten_zpow_pos _)] at hlong
      rw [ten_zpow_add]
      have habs : |t| < 10 ^ (64 : ℤ) := by exact_mod_cast hunits.abs_lt
      exact hlong.trans_lt (mul_lt_mul_of_pos_right habs (ten_zpow_pos _))
    rw [← zpow_natCast, zpow_lt_zpow_iff_right₀ (by norm_num)] at hlt
    obtain ⟨i, hi⟩ : ∃ i : ℕ, e + q.scale = i + 1 := ⟨(e + q.scale - 1).toNat, by omega⟩
    -- Half of ten is a whole number.
    refine h.value_eq (k := 5 * k * 10 ^ i) ?_
    rw [hunits.eq_mul, mul_assoc, ← ten_zpow_add, hi, ten_zpow_add, zpow_natCast, zpow_one]
    push_cast
    rw [← hk]
    ring

/-- In units of the last of 64 digits, the quotient by a small count and its hundred digits are on the same
sides. -/
lemma IsQuotient.sameSides (hunits : InUnits 64 x y e t m) (hc : 0 < c) (hsmall : c < 10 ^ 35)
    (hdigits : HasDigits 64 (x * c)) : SameSides t (value q / 10 ^ e) := by
  obtain ⟨j, hj⟩ := hunits.exists_mul_eq hc hdigits
  have hx : x / 10 ^ e = t := by rw [hunits.eq_mul, mul_div_cancel_right₀ _ (ten_zpow_ne_zero e)]
  refine sameSides_of_near hc hj ?_ fun k hk => ?_
  · have herror := h.abs_sub_le
    have hdist : |t - value q / 10 ^ e| ≤ |t| * (1 / 2 * 10 ^ (-99 : ℤ)) := by
      rw [← hx, ← sub_div, abs_div, abs_div, abs_of_pos (ten_zpow_pos e), abs_sub_comm, div_mul_eq_mul_div]
      exact div_le_div_of_nonneg_right herror (ten_zpow_pos e).le
    have habs : |t| < 10 ^ 64 := by exact_mod_cast hunits.abs_lt
    have hsmall' : (c : ℚ) < 10 ^ 35 := by exact_mod_cast hsmall
    calc 2 * |t - value q / 10 ^ e| * c ≤ 2 * (|t| * (1 / 2 * 10 ^ (-99 : ℤ))) * c := by gcongr
      _ = |t| * c * 10 ^ (-99 : ℤ) := by ring
      _ < 10 ^ 64 * 10 ^ 35 * 10 ^ (-99 : ℤ) := by
        have hpos : (0 : ℚ) < c := by exact_mod_cast hc
        gcongr
      _ = 1 := by norm_num
  · rw [h.value_eq_of_midpoint hunits hk, hx]

/-- Rounding the hundred digits to 64 is rounding the quotient. -/
lemma IsQuotient.isRounded (hc : 0 < c) (hsmall : c < 10 ^ 35) (hdigits : HasDigits 64 (x * c))
    (hy : IsRounded 64 x y) : IsRounded 64 (value q) y := by
  by_cases hx : x = 0
  · have hzero : value q = 0 := by
      have hle := h.abs_sub_le
      rw [hx, abs_zero, zero_mul, sub_zero] at hle
      exact abs_nonpos_iff.mp hle
    exact Or.inl ⟨hzero, (hy.eq_zero_iff (by decide)).mpr hx⟩
  · obtain ⟨e, t, m, hunits⟩ := hy.exists_inUnits (by decide) hx
    have hsides := h.sameSides hunits hc hsmall hdigits
    refine InUnits.isRounded (by decide) (q := e) (t := value q / 10 ^ e) (m := m)
      ⟨(div_mul_cancel₀ _ (ten_zpow_ne_zero e)).symm, hunits.rounded_eq_mul, ?_, ?_, ?_⟩
    · exact not_lt.mp fun hlt => hunits.le_abs.not_gt ((hsides.abs_lt_iff _).mpr hlt)
    · exact (hsides.abs_lt_iff _).mp hunits.abs_lt
    · exact hsides.roundsToEven hunits.rounds

end Rounding

/-! ### Every number can be rounded -/

lemma exists_hasExponent {x : ℚ} (hx : x ≠ 0) : ∃ e, HasExponent x e :=
  exists_mem_Ico_zpow (abs_pos.mpr hx) (by norm_num)

lemma exists_isRounded (p : ℕ) (x : ℚ) : ∃ y, IsRounded p x y := by
  by_cases hx : x = 0
  · exact ⟨0, Or.inl ⟨hx, rfl⟩⟩
  · obtain ⟨e, he⟩ := exists_hasExponent hx
    have hround := quotient_halfEven (x / 10 ^ (e + 1 - p)).num (x / 10 ^ (e + 1 - p)).pos
    rw [Rat.num_div_den] at hround
    exact ⟨_, Or.inr ⟨e, _, he, hround, rfl⟩⟩

lemma existsUnique_isNearest_rat {p : ℕ} (hp : 2 ≤ p) (x : ℚ) : ∃! y, IsNearest p x y := by
  obtain ⟨y, hy⟩ := exists_isRounded p x
  exact ⟨y, hy.isNearest hp, fun z hz => hy.eq_of_isNearest hp hz⟩

end Feel.Proofs
