import Feel.Proofs.WholeDecimals

/-!
# Outcomes of taking whole numbers and seconds

Whether a decimal is taken as a whole number, and why not, depends on its value alone: it is whole and in
the range, or has a fraction, or is too large. Seconds are cut below a nanosecond, and what is below does
not decide whether they are in the range. Neither the scale nor trailing zeros can be seen.
-/

namespace Feel.Proofs

/-! ### Whole numbers -/

/-- What a decimal gives as a whole number from `lo` on and below `hi`. -/
structure TakesWhole {α : Type} (embed : α → ℤ) (lo hi : ℤ) (n : Decimal) (outcome : Except Fault α) :
    Prop where
  ok_iff : ∀ k, outcome = .ok k ↔ value n = embed k ∧ lo ≤ embed k ∧ embed k < hi
  fractional_iff : outcome = .error (.fractional n) ↔ ¬∃ k : ℤ, value n = k
  outOfRange_iff : outcome = .error (.outOfRange n) ↔ ∃ k : ℤ, value n = k ∧ ¬(lo ≤ k ∧ k < hi)

/-- A decimal that has places behind the point without trailing zeros is not whole. -/
lemma whole_eq_fractional {n : Decimal} (h : ¬∃ k : ℤ, value n = k) (lo hi : ℤ) :
    n.whole lo hi = .error (.fractional n) := by
  have hzero : ¬n.digits = 0 := by
    intro hzero
    exact h ⟨0, by rw [value_eq_zero.mpr hzero, Int.cast_zero]⟩
  have hscale : 0 < n.normalize.scale := by
    by_contra hle
    have hvalue := value_of_scale_nonpos (not_lt.mp hle)
    rw [value_normalize] at hvalue
    exact h ⟨_, hvalue⟩
  rw [Decimal.whole, if_neg hzero]
  exact if_pos hscale

section Bounds

variable {lo hi : ℤ} (hlo : lo ≤ 0) (hhi : 0 < hi) (hlo' : -10 ^ Decimal.wordDigits < lo)
  (hhi' : hi ≤ 10 ^ Decimal.wordDigits)

include hlo hhi hlo' hhi'

/-- The three outcomes exclude each other, so that each of them is reached only where it says. -/
lemma takesWhole_whole (n : Decimal) : TakesWhole id lo hi n (n.whole lo (hi - 1)) := by
  have hok (k : ℤ) : n.whole lo (hi - 1) = .ok k ↔ value n = k ∧ lo ≤ k ∧ k < hi := by
    rw [whole_eq_ok_iff hlo (by omega) hlo' (by omega), Int.le_sub_one_iff]
  by_cases hwhole : ∃ k : ℤ, value n = k
  · obtain ⟨k, hk⟩ := hwhole
    have hunique (j : ℤ) : value n = j ↔ j = k := by rw [hk, Int.cast_inj, eq_comm]
    by_cases hrange : lo ≤ k ∧ k < hi
    · have houtcome := (hok k).mpr ⟨hk, hrange⟩
      refine ⟨hok, ?_, ?_⟩ <;> rw [houtcome]
      · exact iff_of_false (by simp) (not_not.mpr ⟨k, hk⟩)
      · simp [hunique, hrange]
    · have houtcome : n.whole lo (hi - 1) = .error (.outOfRange n) :=
        whole_eq_error hlo (by omega) hk (by omega)
      refine ⟨hok, ?_, ?_⟩ <;> rw [houtcome]
      · exact iff_of_false (by simp) (not_not.mpr ⟨k, hk⟩)
      · exact iff_of_true rfl ⟨k, hk, hrange⟩
  · have houtcome := whole_eq_fractional hwhole lo (hi - 1)
    refine ⟨hok, ?_, ?_⟩ <;> rw [houtcome]
    · exact iff_of_true rfl hwhole
    · exact iff_of_false (by simp) fun ⟨k, hk, _⟩ => hwhole ⟨k, hk⟩

end Bounds

lemma map_eq_error_iff {α β : Type} {f : α → β} {outcome : Except Fault α} {fault : Fault} :
    outcome.map f = .error fault ↔ outcome = .error fault := by
  cases outcome <;> simp [Except.map]

/-- Without a sign, the whole number is a natural one. -/
lemma TakesWhole.toNat {hi : ℤ} {n : Decimal} {outcome : Except Fault ℤ}
    (h : TakesWhole id 0 hi n outcome) :
    TakesWhole Nat.cast 0 hi n (outcome.map Int.toNat) := by
  refine ⟨fun j => Iff.trans ?_ (h.ok_iff j), map_eq_error_iff.trans h.fractional_iff,
    map_eq_error_iff.trans h.outOfRange_iff⟩
  cases outcome with
  | ok k =>
    have hnonneg : 0 ≤ k := ((h.ok_iff k).mp rfl).2.1
    simp only [Except.map, Except.ok.injEq]
    omega
  | error fault => simp [Except.map]

lemma takesWhole_word (n : Decimal) : TakesWhole id (-2 ^ 63) (2 ^ 63) n n.word :=
  takesWhole_whole (by decide) (by decide) (by decide) (by decide) n

lemma takesWhole_halfWord (n : Decimal) : TakesWhole id (-2 ^ 31) (2 ^ 31) n n.halfWord :=
  takesWhole_whole (by decide) (by decide) (by decide) (by decide) n

lemma takesWhole_count (n : Decimal) : TakesWhole Nat.cast 0 (2 ^ 32) n n.count :=
  (takesWhole_whole (by decide) (by decide) (by decide) (by decide) n).toNat

lemma halfWord_ofInt {k : ℤ} (h : -2 ^ 31 ≤ k ∧ k < 2 ^ 31) : (Decimal.ofInt k).halfWord = .ok k :=
  ((takesWhole_halfWord _).ok_iff k).mpr ⟨value_ofInt k, h⟩

lemma count_ofInt {k : ℕ} (h : k < 2 ^ 32) : (Decimal.ofInt k).count = .ok k :=
  ((takesWhole_count _).ok_iff k).mpr ⟨value_ofInt k, by omega⟩

/-! ### Seconds -/

/-- A number of seconds that is not negative and below `2 ^ 32`. -/
def AreSeconds (x : ℚ) : Prop := 0 ≤ x ∧ x < 2 ^ 32

instance (x : ℚ) : Decidable (AreSeconds x) := inferInstanceAs (Decidable (_ ∧ _))

/-- The whole nanoseconds of a number of seconds. -/
def wholeNanos (x : ℚ) : ℤ := ⌊x * 10 ^ 9⌋

/-- The whole nanoseconds tell whether a number of seconds is in the range. -/
lemma areSeconds_iff {x : ℚ} : AreSeconds x ↔ 0 ≤ wholeNanos x ∧ wholeNanos x < 2 ^ 32 * 10 ^ 9 := by
  have hpos : (0 : ℚ) < 10 ^ 9 := by norm_num
  have hcast : ((2 ^ 32 * 10 ^ 9 : ℤ) : ℚ) = 2 ^ 32 * 10 ^ 9 := by norm_cast
  rw [AreSeconds, wholeNanos, Int.floor_nonneg, Int.floor_lt, hcast, mul_nonneg_iff_of_pos_right hpos,
    mul_lt_mul_iff_of_pos_right hpos]

/-- What a decimal gives as seconds and nanoseconds. -/
structure SplitsSeconds (n : Decimal) (outcome : Except Fault (ℕ × ℕ)) : Prop where
  succeeds_iff : (∃ parts, outcome = .ok parts) ↔ AreSeconds (value n)
  ok_iff : ∀ s f, outcome = .ok (s, f) ↔
    AreSeconds (value n) ∧ f < 10 ^ 9 ∧ (s * 10 ^ 9 + f : ℤ) = wholeNanos (value n)
  outOfRange_iff : outcome = .error (.outOfRange n) ↔ ¬AreSeconds (value n)

/-- Below a nanosecond there are no whole nanoseconds. -/
lemma wholeNanos_eq_zero {n : Decimal} (hpos : 0 < n.digits) (h : n.exponent < -9) :
    wholeNanos (value n) = 0 := by
  have hvalue : 0 ≤ value n := value_nonneg_iff.mpr hpos.le
  have hlt := (hasExponent_value hpos.ne').2
  rw [abs_of_nonneg hvalue] at hlt
  have hplace : (10 : ℚ) ^ (n.exponent + 1) ≤ 10 ^ (-9 : ℤ) := zpow_le_zpow_right₀ (by norm_num) (by omega)
  rw [wholeNanos, Int.floor_eq_zero_iff]
  refine ⟨mul_nonneg hvalue (by norm_num), ?_⟩
  have hnano : value n < 10 ^ (-9 : ℤ) := hlt.trans_le hplace
  norm_num at hnano ⊢
  linarith

/-- The digits of a decimal at the ninth place are its whole nanoseconds. -/
lemma digits_nanos {n : Decimal} (hpos : 0 < n.digits) :
    (Decimal.rescale ⟨n.digits, n.scale - 9⟩ 0 .towardZero).digits = wholeNanos (value n) := by
  have hnonneg : 0 ≤ value ⟨n.digits, n.scale - 9⟩ := value_nonneg_iff.mpr hpos.le
  have hshift : value ⟨n.digits, n.scale - 9⟩ = value n * 10 ^ 9 := by
    have hscale : -(n.scale - 9) = -n.scale + 9 := by ring
    rw [value, value, hscale, ten_zpow_add, mul_assoc]
    rfl
  rw [digits_rescale_towardZero hnonneg, zpow_zero, mul_one, hshift]
  rfl

/-- Negative numbers and numbers with too many digits before the point are not in the range. -/
lemma not_areSeconds {n : Decimal} (hzero : n.digits ≠ 0)
    (h : n.digits < 0 ∨ (Decimal.wordDigits : ℤ) ≤ n.exponent) : ¬AreSeconds (value n) := by
  rintro ⟨hnonneg, hlt⟩
  obtain hneg | hlarge := h
  · exact absurd (value_nonneg_iff.mp hnonneg) (not_le.mpr hneg)
  · have hle := pow_wordDigits_le_abs_value hzero hlarge
    rw [abs_of_nonneg hnonneg, Decimal.wordDigits] at hle
    norm_num at hle hlt
    linarith

/-- Seconds are split exactly if they are in the range, and then by the whole nanoseconds. -/
lemma splitSeconds_eq (n : Decimal) :
    n.splitSeconds =
      if AreSeconds (value n) then
        .ok ((wholeNanos (value n)).toNat / nanosPerSecond, (wholeNanos (value n)).toNat % nanosPerSecond)
      else .error (.outOfRange n) := by
  -- Without whole nanoseconds there are no whole seconds either.
  have hnone (h : wholeNanos (value n) = 0) : (.ok (0, 0) : Except Fault (ℕ × ℕ)) =
      if AreSeconds (value n) then
        .ok ((wholeNanos (value n)).toNat / nanosPerSecond, (wholeNanos (value n)).toNat % nanosPerSecond)
      else .error (.outOfRange n) := by
    rw [if_pos (areSeconds_iff.mpr (by omega)), h]
    rfl
  unfold Decimal.splitSeconds
  by_cases hzero : n.digits = 0
  · rw [if_pos hzero]
    exact hnone (by rw [value_eq_zero.mpr hzero, wholeNanos, zero_mul, Int.floor_zero])
  rw [if_neg hzero]
  by_cases hbad : n.digits < 0 ∨ (Decimal.wordDigits : ℤ) ≤ n.exponent
  · rw [if_pos hbad, if_neg (not_areSeconds hzero hbad)]
  rw [if_neg hbad]
  have hpos : 0 < n.digits := by omega
  by_cases hsmall : n.exponent < -9
  · rw [if_pos hsmall]
    exact hnone (wholeNanos_eq_zero hpos hsmall)
  have hrange : AreSeconds (value n) ↔
      (wholeNanos (value n)).toNat < Word.count32 * nanosPerSecond := by
    have hnonneg : 0 ≤ wholeNanos (value n) :=
      Int.floor_nonneg.mpr (mul_nonneg (value_nonneg_iff.mpr hpos.le) (by norm_num))
    rw [areSeconds_iff, Word.count32, nanosPerSecond]
    omega
  rw [if_neg hsmall, digits_nanos hpos]
  simp only [hrange]

/-- The seconds and the nanoseconds are the whole nanoseconds, parted at the ninth place. -/
lemma splitsSeconds_splitSeconds (n : Decimal) : SplitsSeconds n n.splitSeconds := by
  by_cases hrange : AreSeconds (value n)
  · have houtcome := splitSeconds_eq n
    rw [if_pos hrange, nanosPerSecond] at houtcome
    have hnonneg := (areSeconds_iff.mp hrange).1
    refine ⟨iff_of_true ⟨_, houtcome⟩ hrange, fun s f => ?_, ?_⟩ <;> rw [houtcome]
    · rw [and_iff_right hrange, Except.ok.injEq, Prod.mk.injEq]
      omega
    · exact iff_of_false (by simp) (not_not.mpr hrange)
  · have houtcome := splitSeconds_eq n
    rw [if_neg hrange] at houtcome
    refine ⟨?_, fun s f => ?_, ?_⟩ <;> rw [houtcome]
    · exact iff_of_false (by simp) hrange
    · exact iff_of_false (by simp) fun h => hrange h.1
    · exact iff_of_true rfl hrange

lemma splitSeconds_ofInt {k : ℕ} (h : k < 2 ^ 32) : (Decimal.ofInt k).splitSeconds = .ok (k, 0) := by
  have hnanos : wholeNanos (value (.ofInt k)) = k * 10 ^ 9 := by
    rw [wholeNanos, value_ofInt, ← Int.floor_intCast (R := ℚ) (k * 10 ^ 9 : ℤ)]
    push_cast
    rfl
  rw [(splitsSeconds_splitSeconds _).ok_iff, areSeconds_iff, hnanos]
  omega

/-- A decimal is taken as a whole number of 64 or 32 bits exactly if it is one of the range; else the outcome
says whether it has a fraction or is out of range. Seconds are split exactly if they are in the range, into
the whole nanoseconds, and what is below a nanosecond does not change them. -/
theorem whole_outcomes (n : Decimal) :
    TakesWhole id (-2 ^ 63) (2 ^ 63) n n.word ∧
      TakesWhole id (-2 ^ 31) (2 ^ 31) n n.halfWord ∧
      TakesWhole Nat.cast 0 (2 ^ 32) n n.count ∧
      SplitsSeconds n n.splitSeconds ∧
      ∀ m : Decimal, wholeNanos (value m) = wholeNanos (value n) →
        ∀ parts, m.splitSeconds = .ok parts ↔ n.splitSeconds = .ok parts := by
  refine ⟨takesWhole_word n, takesWhole_halfWord n, takesWhole_count n, splitsSeconds_splitSeconds n,
    fun m hnanos parts => ?_⟩
  rw [(splitsSeconds_splitSeconds m).ok_iff, (splitsSeconds_splitSeconds n).ok_iff, areSeconds_iff,
    areSeconds_iff, hnanos]

/-- `2 ^ 31` with a trailing zero is too large for 32 bits with a sign. A part of a nanosecond more is a
fraction, and as seconds it is not seen. -/
theorem whole_outcomes_pastHalfWord :
    let n : Decimal := ⟨21474836480, 1⟩
    let m : Decimal := ⟨21474836480000000009, 10⟩
    n.halfWord = .error (.outOfRange n) ∧ n.count = .ok 2147483648 ∧ m.word = .error (.fractional m) ∧
      wholeNanos (value m) = wholeNanos (value n) ∧ n.splitSeconds = .ok (2147483648, 0) ∧
      m.splitSeconds = .ok (2147483648, 0) := by
  intro n m
  have hn : value n = (2147483648 : ℤ) := by norm_num [n, value]
  have hm : ¬∃ k : ℤ, value m = k := by
    rintro ⟨k, hk⟩
    have hdigits : (21474836480000000009 : ℚ) = k * 10 ^ 10 := by
      rw [← hk]
      norm_num [m, value]
    have hwhole : (21474836480000000009 : ℤ) = k * 10 ^ 10 := by exact_mod_cast hdigits
    omega
  have hnanosN : wholeNanos (value n) = 2147483648000000000 := by
    rw [wholeNanos, hn, Int.floor_eq_iff]
    norm_num
  have hnanosM : wholeNanos (value m) = 2147483648000000000 := by
    rw [wholeNanos, Int.floor_eq_iff]
    norm_num [m, value]
  have hnanos := hnanosM.trans hnanosN.symm
  obtain ⟨-, hhalf, hcount, hsplit, hcut⟩ := whole_outcomes n
  have hseconds : n.splitSeconds = .ok (2147483648, 0) := by
    rw [hsplit.ok_iff, areSeconds_iff, hnanosN]
    decide
  exact ⟨hhalf.outOfRange_iff.mpr ⟨_, hn, by decide⟩, (hcount.ok_iff _).mpr ⟨hn, by decide⟩,
    (whole_outcomes m).1.fractional_iff.mpr hm, hnanos, hseconds, (hcut m hnanos _).mpr hseconds⟩

end Feel.Proofs
