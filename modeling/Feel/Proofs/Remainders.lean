import Feel.Proofs.Means

/-!
# Remainders

The remainder of a division is that of the quotient rounded down, so that it has the sign of the divisor.
It is made from the remainder of the quotient cut toward zero, to which the divisor is added where the signs
differ, and is rounded to the working precision once. A remainder of numbers with 64 digits needs more of
them only if the dividend is the smaller one and has the other sign. Then the remainder is the sum of both,
and a dividend that is small enough is lost in it: the divisor itself is given. In all other cases the
remainder is smaller than the divisor.
-/

namespace Feel.Proofs

/-- The remainder of a division whose quotient is rounded down. -/
def flooredRemainder (x y : ℚ) : ℚ := x - y * ⌊x / y⌋

/-- The first number has the other sign than the second one and is lost in their sum, which is rounded to
the second one again. -/
structure IsAbsorbed (x y : ℚ) : Prop where
  div_neg : x / y < 0
  isNearest : IsNearest 64 (x + y) y

/-- The remainder before it is rounded. -/
def exactRemainder (a b : Decimal) : Decimal :=
  let r := a.rem b
  if r.digits ≠ 0 ∧ (r.digits < 0) ≠ (b.digits < 0) then r.add b else r

/-! ### Floored remainders -/

section FlooredRemainder

variable {x y : ℚ} (hy : y ≠ 0)

include hy

lemma flooredRemainder_div : flooredRemainder x y / y = Int.fract (x / y) := by
  rw [flooredRemainder, sub_div, mul_div_cancel_left₀ _ hy, Int.fract]

lemma flooredRemainder_div_nonneg : 0 ≤ flooredRemainder x y / y := by
  rw [flooredRemainder_div hy]
  exact Int.fract_nonneg _

lemma abs_flooredRemainder_lt : |flooredRemainder x y| < |y| := by
  rw [← div_lt_one (abs_pos.mpr hy), ← abs_div, flooredRemainder_div hy, Int.abs_fract]
  exact Int.fract_lt_one _

/-- No other remainder is proper, whatever whole number the quotient is taken for. -/
lemma eq_flooredRemainder {r : ℚ} {q : ℤ} (hr : r = x - y * q) (hsigns : 0 ≤ r / y) (hlt : |r| < |y|) :
    r = flooredRemainder x y := by
  rw [← div_lt_one (abs_pos.mpr hy), ← abs_div, abs_of_nonneg hsigns] at hlt
  have hfract : Int.fract (x / y) = r / y := by
    refine Int.fract_eq_iff.mpr ⟨hsigns, hlt, q, ?_⟩
    rw [hr, sub_div, mul_div_cancel_left₀ _ hy, sub_sub_cancel]
  rw [← flooredRemainder_div hy] at hfract
  exact ((div_left_inj' hy).mp hfract).symm

/-- Adding the divisor once makes a remainder of the other sign a proper one. -/
lemma add_eq_flooredRemainder {r : ℚ} {q : ℤ} (hr : r = x - y * q) (hsigns : r / y < 0) (hlt : |r| < |y|) :
    r + y = flooredRemainder x y := by
  rw [← div_lt_one (abs_pos.mpr hy), ← abs_div, abs_of_neg hsigns] at hlt
  have hsum : (r + y) / y = r / y + 1 := by rw [add_div, div_self hy]
  have hnonneg : 0 ≤ (r + y) / y := by linarith
  refine eq_flooredRemainder hy (q := q - 1) ?_ hnonneg ?_
  · rw [hr]
    push_cast
    ring
  · rw [← div_lt_one (abs_pos.mpr hy), ← abs_div, abs_of_nonneg hnonneg]
    linarith

/-- A dividend smaller than the divisor is left as it is if it has the divisor's sign. -/
lemma flooredRemainder_of_div_nonneg (hsigns : 0 ≤ x / y) (hlt : |x| < |y|) : flooredRemainder x y = x :=
  (eq_flooredRemainder hy (q := 0) (by simp) hsigns hlt).symm

lemma flooredRemainder_of_div_neg (hsigns : x / y < 0) (hlt : |x| < |y|) : flooredRemainder x y = x + y :=
  (add_eq_flooredRemainder hy (q := 0) (by simp) hsigns hlt).symm

end FlooredRemainder

/-! ### Remainders of decimals -/

lemma digits_neg_iff {n : Decimal} : n.digits < 0 ↔ value n < 0 := by
  rw [← not_le, ← not_le, value_nonneg_iff]

/-- What cutting the quotient toward zero leaves is smaller than the divisor, of either sign. -/
lemma rem_spec (a : Decimal) {b : Decimal} (hb : value b ≠ 0) :
    |value (a.rem b)| < |value b| ∧ ∃ q : ℤ, value (a.rem b) = value a - value b * q := by
  obtain ⟨ha', hb'⟩ := value_align a b
  have hrem : value (a.rem b) =
      ((a.align b).1.tmod (a.align b).2 : ℤ) * (10 : ℚ) ^ (-max a.scale b.scale) := rfl
  have hne : (a.align b).2 ≠ 0 := by
    intro hzero
    rw [hb', hzero, Int.cast_zero, zero_mul] at hb
    exact hb rfl
  constructor
  · have hlt : |(a.align b).1.tmod (a.align b).2| < |(a.align b).2| := by
      rw [Int.abs_eq_natAbs, Int.abs_eq_natAbs, Int.natAbs_tmod]
      exact_mod_cast Nat.mod_lt _ (Int.natAbs_pos.mpr hne)
    rw [hrem, hb', abs_mul, abs_mul]
    exact mul_lt_mul_of_pos_right (by exact_mod_cast hlt) (abs_pos.mpr (ten_zpow_ne_zero _))
  · refine ⟨(a.align b).1.tdiv (a.align b).2, ?_⟩
    rw [hrem, ha', hb', Int.tmod_def]
    push_cast
    ring

lemma value_exactRemainder {a b : Decimal} (hb : value b ≠ 0) :
    value (exactRemainder a b) = flooredRemainder (value a) (value b) := by
  obtain ⟨hlt, q, hq⟩ := rem_spec a hb
  unfold exactRemainder
  simp only [ne_eq, digits_neg_iff, ← value_eq_zero, eq_iff_iff]
  split_ifs with hsigns
  · rw [value_add]
    refine add_eq_flooredRemainder hb hq ?_ hlt
    rw [div_neg_iff]
    grind
  · refine eq_flooredRemainder hb hq ?_ hlt
    rw [div_nonneg_iff]
    grind

/-! ### Outcomes -/

lemma modulo_eq (a b : Decimal) : Operation.modulo [.number a, .number b] =
    if value b = 0 then .error .divisionByZero
    else (Operation.working (exactRemainder a b)).map Value.ofDecimal := by
  have hzero : b.isZero = decide (value b = 0) := by
    rw [Bool.eq_iff_iff, decide_eq_true_iff, value_eq_zero, Decimal.isZero, beq_iff_eq]
  simp only [Operation.modulo, anyNull, List.any_cons, List.any_nil, Value.isNull, Value.toNumber, hzero,
    Bind.bind, Except.bind, Bool.or_false, Bool.false_eq_true, if_false, decide_eq_true_iff]
  by_cases hb : value b = 0
  · rw [if_pos hb, if_pos hb]
    rfl
  · rw [if_neg hb, if_neg hb]
    change (Operation.working (exactRemainder a b) >>= fun r => pure (Value.ofDecimal r)) = _
    cases Operation.working (exactRemainder a b) <;> rfl

lemma modulo_of_working {a b r : Decimal} (hb : value b ≠ 0)
    (h : Operation.working (exactRemainder a b) = .ok r) :
    Operation.modulo [.number a, .number b] = .ok (.number r) := by
  rw [modulo_eq, if_neg hb, h]
  change Except.ok (Value.number r.normalize) = _
  rw [normalize_eq_self (working_eq_ok_iff.mp h).2.2]

lemma modulo_eq_divisionByZero_iff {a b : Decimal} :
    Operation.modulo [.number a, .number b] = .error .divisionByZero ↔ value b = 0 := by
  rw [modulo_eq, ite_eq_left_iff]
  refine ⟨fun h => by_contra fun hb => ?_, fun hb hne => absurd hb hne⟩
  have h := h hb
  unfold Operation.working at h
  cases hrounded : (exactRemainder a b).toWorking? <;> simp [hrounded, Except.map] at h

lemma delivers_modulo {a b : Decimal} {y : ℚ} (hb : value b ≠ 0)
    (hy : IsNearest 64 (flooredRemainder (value a) (value b)) y) :
    Delivers (Operation.modulo [.number a, .number b]) y := by
  rw [← value_exactRemainder hb] at hy
  rw [modulo_eq, if_neg hb]
  exact delivers_of_isNearest hy

lemma exists_number_of_modulo_eq_ok {a b : Decimal} {v : Value}
    (h : Operation.modulo [.number a, .number b] = .ok v) : ∃ r, v = .number r := by
  rw [modulo_eq] at h
  split_ifs at h
  cases hrounded : Operation.working (exactRemainder a b) with
  | error fault => simp [hrounded, Except.map] at h
  | ok r =>
    rw [hrounded] at h
    exact ⟨r.normalize, (Except.ok.inj h).symm⟩

lemma isNearest_of_modulo_eq_ok {a b r : Decimal}
    (h : Operation.modulo [.number a, .number b] = .ok (.number r)) :
    value b ≠ 0 ∧ IsNearest 64 (flooredRemainder (value a) (value b)) (value r) := by
  have hb : value b ≠ 0 := by
    intro hzero
    rw [modulo_eq_divisionByZero_iff.mpr hzero] at h
    exact nomatch h
  obtain ⟨y, hy, -⟩ := existsUnique_isNearest_rat (p := 64) (by decide) (flooredRemainder (value a) (value b))
  rw [(delivers_modulo hb hy).value_eq h]
  exact ⟨hb, hy⟩

/-! ### Parity -/

lemma isZero_rem_two {n : Decimal} {k : ℤ} (hn : value n = k) :
    (n.rem (.ofInt 2)).isZero = true ↔ k % 2 = 0 := by
  obtain ⟨hlt, q, hq⟩ := rem_spec n (b := .ofInt 2) (by rw [value_ofInt]; norm_num)
  have hrest : value (n.rem (.ofInt 2)) = (k - 2 * q : ℤ) := by
    rw [hq, hn, value_ofInt]
    push_cast
    rfl
  rw [hrest, value_ofInt] at hlt
  have hlt : |k - 2 * q| < |2| := by exact_mod_cast hlt
  rw [abs_two, abs_lt] at hlt
  rw [Decimal.isZero, beq_iff_eq, ← value_eq_zero, hrest, Int.cast_eq_zero]
  omega

lemma parity_eq {n : Decimal} {k : ℤ} (hn : value n = k) (wantOdd : Bool) :
    Operation.parity wantOdd [.number n] = .ok (.boolean (decide (k % 2 = 1) == wantOdd)) := by
  have hscale := scale_nonpos_of_value_eq (isNormal_normalize n) (by rw [value_normalize, hn])
  have hzero := isZero_rem_two hn
  have hodd : (!((n.rem (.ofInt 2)).isZero == wantOdd)) = (decide (k % 2 = 1) == wantOdd) := by
    cases wantOdd <;> grind
  change (if 0 < n.normalize.scale then _ else Except.ok (Value.boolean (!(_ == wantOdd)))) = _
  rw [if_neg (not_lt.mpr hscale), hodd]

lemma modulo_two {n two : Decimal} {k : ℤ} (hn : value n = k) (htwo : value two = 2) :
    Operation.modulo [.number n, .number two] = .ok (.number (.ofInt (k % 2))) := by
  have hfloored : value (.ofInt (k % 2)) = flooredRemainder (value n) (value two) := by
    rw [hn, htwo, value_ofInt]
    have hnonneg : (0 : ℚ) ≤ (k % 2 : ℤ) := by exact_mod_cast Int.emod_nonneg k (by decide)
    refine eq_flooredRemainder two_ne_zero (q := k / 2) ?_ (div_nonneg hnonneg two_pos.le) ?_
    · rw [← Int.cast_ofNat]
      exact_mod_cast Int.emod_def k 2
    · rw [abs_of_nonneg hnonneg, abs_two]
      exact_mod_cast Int.emod_lt_of_pos k (by decide)
  have hheld : IsHeld (.ofInt (k % 2)) := isHeld_of_whole (value_ofInt _) (by omega)
  have hself := isNearest_self hheld.hasDigits
  rw [hfloored] at hself
  have hdelivers := delivers_modulo (by rw [htwo]; norm_num) hself
  rw [← hfloored] at hdelivers
  rw [hdelivers.eq_of_inRange hheld.2]
  obtain h | h := Int.emod_two_eq_zero_or_one k
  · rw [h]
    rfl
  · rw [h]
    cbv

/-- A division by zero is refused. Else the exact remainder with the divisor's sign is rounded once, and
there is an overflow exactly if this leaves the range. Whole numbers are odd or even as their remainder by
two says. -/
theorem modulo_isNearest (a b : Decimal) :
    (Operation.modulo [.number a, .number b] = .error .divisionByZero ↔ value b = 0) ∧
      (value b ≠ 0 →
        (∃! y, IsNearest 64 (flooredRemainder (value a) (value b)) y) ∧
          ∀ y, IsNearest 64 (flooredRemainder (value a) (value b)) y →
            Delivers (Operation.modulo [.number a, .number b]) y) ∧
      ∀ (two : Decimal) (k : ℤ), value a = k → value two = 2 →
        Operation.modulo [.number a, .number two] = .ok (.number (.ofInt (k % 2))) ∧
          (Operation.parity true [.number a] = .ok (.boolean true) ↔
            Operation.modulo [.number a, .number two] = .ok (.number (.ofInt 1))) ∧
          (Operation.parity false [.number a] = .ok (.boolean true) ↔
            Operation.modulo [.number a, .number two] = .ok (.number (.ofInt 0))) := by
  refine ⟨modulo_eq_divisionByZero_iff, fun hb => ⟨existsUnique_isNearest_rat (by decide) _,
    fun y => delivers_modulo hb⟩, fun two k ha htwo => ?_⟩
  have hrest := modulo_two ha htwo
  refine ⟨hrest, ?_, ?_⟩
  · rw [parity_eq ha, hrest]
    simp [Decimal.ofInt]
  · rw [parity_eq ha, hrest]
    simp [Decimal.ofInt]

/-- Five units below a power of ten, the remainder by it is half way between two numbers with 64 digits, the
upper one of which is even. -/
theorem modulo_isNearest_halfWay :
    value ⟨1, -65⟩ ≠ 0 ∧ Operation.modulo [.number ⟨-5, 0⟩, .number ⟨1, -65⟩] = .ok (.number ⟨1, -65⟩) ∧
      IsNearest 64 (flooredRemainder (value ⟨-5, 0⟩) (value ⟨1, -65⟩)) (value ⟨1, -65⟩) ∧
      value ⟨-5, 0⟩ = (-5 : ℤ) ∧ value ⟨20, 1⟩ = 2 ∧
      Operation.modulo [.number ⟨-5, 0⟩, .number ⟨20, 1⟩] = .ok (.number (.ofInt 1)) ∧
      Operation.parity true [.number ⟨-5, 0⟩] = .ok (.boolean true) := by
  obtain ⟨-, hnearest, hparity⟩ := modulo_isNearest ⟨-5, 0⟩ ⟨1, -65⟩
  have hb : value ⟨1, -65⟩ ≠ 0 := by
    rw [Ne, value_eq_zero]
    decide
  have hmodulo : Operation.modulo [.number ⟨-5, 0⟩, .number ⟨1, -65⟩] = .ok (.number ⟨1, -65⟩) :=
    modulo_of_working hb (by decide +kernel)
  obtain ⟨⟨y, hy, -⟩, hdelivers⟩ := hnearest hb
  rw [← (hdelivers y hy).value_eq hmodulo] at hy
  have ha : value ⟨-5, 0⟩ = (-5 : ℤ) := value_ofInt (-5)
  have htwo : value ⟨20, 1⟩ = 2 := by norm_num [value]
  obtain ⟨hrest, hodd, -⟩ := hparity ⟨20, 1⟩ (-5) ha htwo
  exact ⟨hb, hmodulo, hy, ha, htwo, hrest, hodd.mpr hrest⟩

/-! ### Remainders that are not rounded -/

/-- A multiple of a number's last unit that is not greater has as few digits. -/
lemma hasDigits_of_abs_le_abs {p : ℕ} {m k q : ℤ} (hm : |m| < 10 ^ p)
    (hle : |(k : ℚ) * 10 ^ q| ≤ |(m : ℚ) * 10 ^ q|) : HasDigits p (k * (10 : ℚ) ^ q) := by
  rw [abs_mul, abs_mul] at hle
  have hle' : |(k : ℚ)| ≤ |(m : ℚ)| := le_of_mul_le_mul_right hle (abs_pos.mpr (ten_zpow_ne_zero _))
  exact ⟨k, q, lt_of_le_of_lt (by exact_mod_cast hle') hm, rfl⟩

/-- The remainder is a multiple of the finer one of two last units, and does not exceed the number whose
unit this is, unless it is the sum of the numbers. -/
lemma hasDigits_flooredRemainder {p : ℕ} {x y : ℚ} (hx : HasDigits p x) (hy : HasDigits p y) (hne : y ≠ 0)
    (h : 0 ≤ x / y ∨ |y| ≤ |x|) : HasDigits p (flooredRemainder x y) := by
  have hlt := abs_flooredRemainder_lt (x := x) hne
  obtain hsmall | hle := lt_or_ge |x| |y|
  · rwa [flooredRemainder_of_div_nonneg hne (h.resolve_right hsmall.not_ge) hsmall]
  · obtain ⟨m, i, hm, rfl⟩ := hx
    obtain ⟨k, j, hk, rfl⟩ := hy
    obtain hij | hji := le_total i j
    · obtain ⟨c, rfl⟩ := Int.le.dest hij
      have hmultiple : flooredRemainder (m * 10 ^ i) (k * 10 ^ (i + c : ℤ)) =
          (m - k * 10 ^ c * ⌊(m * 10 ^ i : ℚ) / (k * 10 ^ (i + c : ℤ))⌋ : ℤ) * 10 ^ i := by
        rw [flooredRemainder, ten_zpow_add, zpow_natCast]
        push_cast
        ring
      rw [hmultiple] at hlt ⊢
      exact hasDigits_of_abs_le_abs hm (hlt.le.trans hle)
    · obtain ⟨c, rfl⟩ := Int.le.dest hji
      have hmultiple : flooredRemainder (m * 10 ^ (j + c : ℤ)) (k * 10 ^ j) =
          (m * 10 ^ c - k * ⌊(m * 10 ^ (j + c : ℤ) : ℚ) / (k * 10 ^ j)⌋ : ℤ) * 10 ^ j := by
        rw [flooredRemainder, ten_zpow_add, zpow_natCast]
        push_cast
        ring
      rw [hmultiple] at hlt ⊢
      exact hasDigits_of_abs_le_abs hk hlt.le

/-! ### Absorbed dividends -/

section IsAbsorbed

variable {x y : ℚ}

/-- Otherwise zero would be nearer to the sum. -/
lemma IsAbsorbed.abs_lt (h : IsAbsorbed x y) : |x| < |y| := by
  have hle := h.isNearest.abs_sub_le 0 (hasDigits_zero 64)
  rw [add_sub_cancel_right, sub_zero] at hle
  obtain ⟨hx, hy⟩ | ⟨hx, hy⟩ := div_neg_iff.mp h.div_neg <;> grind

/-- A number that is lost is at most half a unit of the other one's last digit. -/
lemma IsAbsorbed.abs_le (h : IsAbsorbed x y) : |x| ≤ |y| * roundoff := by
  have hlt := h.abs_lt
  have hround := h.isNearest.abs_sub_le_roundoff
  rw [sub_add_cancel_right, abs_neg] at hround
  have hsum : |x + y| ≤ |y| := by
    obtain ⟨hx, hy⟩ | ⟨hx, hy⟩ := div_neg_iff.mp h.div_neg <;> grind
  exact hround.trans (mul_le_mul_of_nonneg_right hsum roundoff_nonneg)

/-- The remainder is rounded to the divisor only if it is the sum of both numbers. -/
lemma isNearest_flooredRemainder_iff (hx : HasDigits 64 x) (hy : HasDigits 64 y) (hne : y ≠ 0) :
    IsNearest 64 (flooredRemainder x y) y ↔ IsAbsorbed x y := by
  constructor
  · intro h
    by_cases hexact : 0 ≤ x / y ∨ |y| ≤ |x|
    · have hlt := abs_flooredRemainder_lt (x := x) hne
      rw [← h.eq_of_hasDigits (hasDigits_flooredRemainder hx hy hne hexact)] at hlt
      exact absurd hlt (lt_irrefl _)
    · rw [not_or, not_le, not_le] at hexact
      rw [flooredRemainder_of_div_neg hne hexact.1 hexact.2] at h
      exact ⟨hexact.1, h⟩
  · intro h
    rw [flooredRemainder_of_div_neg hne h.div_neg h.abs_lt]
    exact h.isNearest

end IsAbsorbed

/-! ### Proper remainders -/

/-- Rounding leaves a remainder between zero and the divisor. -/
lemma modulo_between {a b r : Decimal} (hb : IsHeld b)
    (hr : Operation.modulo [.number a, .number b] = .ok (.number r)) :
    0 < value b ∧ 0 ≤ value r ∧ value r ≤ value b ∨ value b < 0 ∧ value b ≤ value r ∧ value r ≤ 0 := by
  obtain ⟨hne, hnearest⟩ := isNearest_of_modulo_eq_ok hr
  have hlt := abs_flooredRemainder_lt (x := value a) hne
  have hsigns := flooredRemainder_div_nonneg (x := value a) hne
  have hzero : IsNearest 64 (value .zero) 0 := by
    rw [value_zero]
    exact isNearest_self (hasDigits_zero 64)
  have hself := isNearest_self hb.hasDigits
  rw [← value_exactRemainder hne] at hnearest hlt hsigns
  rw [div_nonneg_iff] at hsigns
  obtain hneg | hpos := lt_or_gt_of_ne hne
  · obtain ⟨-, hge⟩ | ⟨hle, -⟩ := hsigns
    · exact absurd hneg hge.not_gt
    · rw [abs_of_nonpos hle, abs_of_neg hneg, neg_lt_neg_iff] at hlt
      exact Or.inr ⟨hneg, hself.le_of_le (by decide) hnearest hlt.le,
        hnearest.le_of_le (by decide) hzero (by rwa [value_zero])⟩
  · obtain ⟨hge, -⟩ | ⟨-, hle⟩ := hsigns
    · rw [abs_of_nonneg hge, abs_of_pos hpos] at hlt
      exact Or.inl ⟨hpos, hzero.le_of_le (by decide) hnearest (by rwa [value_zero]),
        hnearest.le_of_le (by decide) hself hlt.le⟩
    · exact absurd hpos hle.not_gt

/-- Between zero and the divisor, only the divisor is no proper remainder. -/
lemma sign_and_abs_of_between {r y : ℚ} (h : 0 < y ∧ 0 ≤ r ∧ r ≤ y ∨ y < 0 ∧ y ≤ r ∧ r ≤ 0) :
    (r = 0 ∨ SignType.sign r = SignType.sign y) ∧ |r| ≤ |y| ∧ (|r| < |y| ↔ r ≠ y) := by
  obtain ⟨hpos, hge, hle⟩ | ⟨hneg, hge, hle⟩ := h
  · rw [abs_of_nonneg hge, abs_of_pos hpos, sign_pos hpos]
    exact ⟨hge.eq_or_lt.imp Eq.symm sign_pos, hle, hle.lt_iff_ne⟩
  · rw [abs_of_nonpos hle, abs_of_neg hneg, sign_neg hneg, neg_le_neg_iff, neg_lt_neg_iff]
    exact ⟨hle.eq_or_lt.imp id sign_neg, hge, hge.lt_iff_ne.trans ne_comm⟩

/-- A remainder that is given is zero or has the sign of the divisor, and does not exceed it. It is smaller
unless the dividend is absorbed. Then it is the divisor itself, in the last digit of which the dividend is
not more than half a unit. If the dividend has the sign of the divisor or is not smaller, the remainder is
exact. -/
theorem modulo_abs_lt_iff_not_isAbsorbed {a b : Decimal} {v : Value} (ha : IsHeld a) (hb : IsHeld b)
    (hv : Operation.modulo [.number a, .number b] = .ok v) :
    ∃ r, v = .number r ∧
      (value r = 0 ∨ SignType.sign (value r) = SignType.sign (value b)) ∧ |value r| ≤ |value b| ∧
      (|value r| < |value b| ↔ ¬IsAbsorbed (value a) (value b)) ∧
      (IsAbsorbed (value a) (value b) → value r = value b ∧ |value a| ≤ |value b| * roundoff) ∧
      (0 ≤ value a / value b ∨ |value b| ≤ |value a| →
        value r = flooredRemainder (value a) (value b)) := by
  obtain ⟨r, rfl⟩ := exists_number_of_modulo_eq_ok hv
  obtain ⟨hne, hnearest⟩ := isNearest_of_modulo_eq_ok hv
  have habsorbed : value r = value b ↔ IsAbsorbed (value a) (value b) := by
    rw [← isNearest_flooredRemainder_iff ha.hasDigits hb.hasDigits hne]
    constructor
    · intro hsame
      rwa [hsame] at hnearest
    · exact (existsUnique_isNearest_rat (by decide) _).unique hnearest
  obtain ⟨hsign, hle, hlt⟩ := sign_and_abs_of_between (modulo_between hb hv)
  refine ⟨r, rfl, hsign, hle, hlt.trans (not_congr habsorbed), fun h => ⟨habsorbed.mpr h, h.abs_le⟩,
    fun hexact => ?_⟩
  exact hnearest.eq_of_hasDigits (hasDigits_flooredRemainder ha.hasDigits hb.hasDigits hne hexact)

lemma value_one_ne_zero : value ⟨1, 0⟩ ≠ 0 := by
  rw [Ne, value_eq_zero]
  decide

/-- One unit of the last of 64 digits is not lost. -/
theorem modulo_abs_lt_lastDigit :
    IsHeld ⟨1, 0⟩ ∧ IsHeld ⟨-1, 64⟩ ∧
      Operation.modulo [.number ⟨-1, 64⟩, .number ⟨1, 0⟩] = .ok (.number ⟨10 ^ 64 - 1, 64⟩) ∧
      |value ⟨10 ^ 64 - 1, 64⟩| < |value ⟨1, 0⟩| ∧ ¬IsAbsorbed (value ⟨-1, 64⟩) (value ⟨1, 0⟩) := by
  have hb : IsHeld ⟨1, 0⟩ := isHeld_ofInt (k := 1) (by decide)
  have ha : IsHeld ⟨-1, 64⟩ := isHeld_of_exponent (by decide +kernel) (by decide +kernel) (by decide)
  have hr : Operation.modulo [.number ⟨-1, 64⟩, .number ⟨1, 0⟩] = .ok (.number ⟨10 ^ 64 - 1, 64⟩) :=
    modulo_of_working value_one_ne_zero (by decide +kernel)
  have hlt : |value ⟨10 ^ 64 - 1, 64⟩| < |value ⟨1, 0⟩| := by norm_num [value, abs_of_pos]
  obtain ⟨r, hsame, -, -, hiff, -⟩ := modulo_abs_lt_iff_not_isAbsorbed ha hb hr
  obtain rfl := Value.number.inj hsame
  exact ⟨hb, ha, hr, hlt, hiff.mp hlt⟩

/-- A dividend with a hundred places is lost, and the remainder is as great as the divisor. -/
theorem modulo_eq_divisor :
    IsHeld ⟨-1, 100⟩ ∧ IsHeld ⟨1, 0⟩ ∧ value ⟨1, 0⟩ ≠ 0 ∧
      Operation.modulo [.number ⟨-1, 100⟩, .number ⟨1, 0⟩] = .ok (.number ⟨1, 0⟩) ∧
      ¬|value ⟨1, 0⟩| < |value ⟨1, 0⟩| :=
  ⟨isHeld_of_exponent (by decide +kernel) (by decide +kernel) (by decide),
    isHeld_ofInt (k := 1) (by decide), value_one_ne_zero,
    modulo_of_working value_one_ne_zero (by decide +kernel), lt_irrefl _⟩

end Feel.Proofs
