import Feel.Proofs.ComparatorSorts
import Feel.Proofs.DecimalPlaces
import Feel.Proofs.Quotients
import Feel.Proofs.Totals

/-!
# Means

The mean of numbers is their total divided by their count. The quotient has a hundred digits before it is
rounded to the working precision, which makes no difference: the mean is the nearest number to the exact
quotient. The total, however, is rounded after each addition, so that the mean may lie outside the range of
the numbers. It does not if no sum is rounded, and else it is outside by no more than the rounding errors.
-/

namespace Feel.Proofs

/-- The greatest relative error of rounding to 64 digits. -/
def roundoff : ℚ := 1 / 2 / 10 ^ 63

/-- The relative error that so many roundings in a row can reach. -/
def accruedError (roundings : ℕ) : ℚ := (1 + roundoff) ^ roundings - 1

/-- The second number comes from the first one, of at most this magnitude, by no more than so many
roundings. -/
structure IsWithin (roundings : ℕ) (magnitude x y : ℚ) : Prop where
  abs_le : |x| ≤ magnitude
  error_le : |y - x| ≤ accruedError roundings * magnitude

/-! ### Nearest quotients -/

section Offered

variable {args : List Value} {ns : List Decimal} (h : Offers args ns) (hne : ns ≠ [])

include h hne

lemma mean_of_offers :
    Operation.mean args = (Operation.total (ns.map .number)).bind fun s =>
      (Operation.working (s.div (.ofInt ns.length))).map Value.ofDecimal := by
  obtain ⟨n, ns, rfl⟩ := List.exists_cons_of_ne_nil hne
  rw [Operation.mean, onItems_of_offers _ h, List.map_cons, List.length_map, List.length_cons]
  cases Operation.total (.number n :: ns.map .number) with
  | error fault => rfl
  | ok s =>
    change (Operation.working _ >>= _) = (Operation.working _).map _
    cases Operation.working (s.div (.ofInt (ns.length + 1 : ℕ))) <;> rfl

/-- A mean that is given comes from a total and from the rounding of its quotient. -/
lemma mean_eq_ok_iff {r : Decimal} :
    Operation.mean args = .ok (.number r) ↔ ∃ s, Operation.total (ns.map .number) = .ok s ∧
      Operation.working (s.div (.ofInt ns.length)) = .ok r := by
  rw [mean_of_offers h hne]
  cases Operation.total (ns.map .number) with
  | error fault => exact iff_of_false nofun nofun
  | ok s =>
    change (Operation.working (s.div (.ofInt ns.length))).map Value.ofDecimal = _ ↔ _
    cases hworking : Operation.working (s.div (.ofInt ns.length)) with
    | error fault => exact iff_of_false nofun (by simp [hworking])
    | ok t =>
      change Except.ok (Value.number t.normalize) = _ ↔ _
      rw [normalize_eq_self (working_eq_ok_iff.mp hworking).2.2]
      simp [hworking]

end Offered

lemma isQuotient_div_length (s : Decimal) {ns : List Decimal} (hne : ns ≠ []) :
    IsQuotient (value s / ns.length) (s.div (.ofInt ns.length)) := by
  have hpos := List.length_pos_iff.mpr hne
  have hdigits : (Decimal.ofInt ns.length).digits ≠ 0 := by
    change (ns.length : ℤ) ≠ 0
    omega
  have hquotient := isQuotient_div s hdigits
  rwa [value_ofInt, Int.cast_natCast] at hquotient

/-- A quotient by a small count is divided out and rounded like the exact one. -/
lemma isNearest_div {s : Decimal} {ns : List Decimal} {y : ℚ} (hs : HasDigits 64 (value s)) (hne : ns ≠ [])
    (hlength : ns.length < 10 ^ 35) (hy : IsNearest 64 (value s / ns.length) y) :
    IsNearest 64 (value (s.div (.ofInt ns.length))) y := by
  have hpos := List.length_pos_iff.mpr hne
  have hpos' : (ns.length : ℚ) ≠ 0 := by exact_mod_cast hpos.ne'
  obtain ⟨z, hz⟩ := exists_isRounded 64 (value s / ns.length)
  rw [hz.eq_of_isNearest (by decide) hy]
  refine ((isQuotient_div_length s hne).isRounded hpos hlength ?_ hz).isNearest (by decide)
  rwa [div_mul_cancel₀ _ hpos']

/-- The mean of a total is the nearest number to the exact quotient by the count, or an overflow if that
number is out of range. -/
theorem mean_isNearest {args : List Value} {ns : List Decimal} {s : Decimal} (hargs : Offers args ns)
    (hlength : ns.length < 10 ^ 35) (hsum : Operation.sum args = .ok (.number s)) :
    (∃! y, IsNearest 64 (value s / ns.length) y) ∧
      ∀ y, IsNearest 64 (value s / ns.length) y → Delivers (Operation.mean args) y := by
  refine ⟨existsUnique_isNearest_rat (by decide) _, fun y hy => ?_⟩
  have hne : ns ≠ [] := by
    rintro rfl
    obtain rfl | rfl := hargs <;> cases hsum
  rw [sum_eq_ok_iff hargs hne] at hsum
  rw [mean_of_offers hargs hne, hsum]
  exact delivers_of_isNearest (isNearest_div (hasDigits_of_total hsum).1 hne hlength hy)

/-- A quarter of their sum is half way between two numbers with 64 digits. -/
def halfWayQuarters : List Decimal := [⟨10 ^ 63 + 1, 0⟩, .zero, .zero, .zero]

/-- Half way between two numbers with 64 digits, the mean has the even last digit. -/
theorem mean_isNearest_halfWay :
    Offers [.list (halfWayQuarters.map .number)] halfWayQuarters ∧ halfWayQuarters.length < 10 ^ 35 ∧
      Operation.sum [.list (halfWayQuarters.map .number)] = .ok (.number ⟨10 ^ 63 + 1, 0⟩) ∧
      Operation.mean [.list (halfWayQuarters.map .number)] = .ok (.number ⟨25 * 10 ^ 62 + 2, 1⟩) ∧
      IsNearest 64 (value ⟨10 ^ 63 + 1, 0⟩ / 4) (value ⟨25 * 10 ^ 62 + 2, 1⟩) := by
  have hlength : halfWayQuarters.length < 10 ^ 35 := by decide
  have hsum : Operation.sum [.list (halfWayQuarters.map .number)] = .ok (.number ⟨10 ^ 63 + 1, 0⟩) := by
    cbv
  have hmean : Operation.mean [.list (halfWayQuarters.map .number)] =
      .ok (.number ⟨25 * 10 ^ 62 + 2, 1⟩) := by cbv
  obtain ⟨⟨y, hy, -⟩, hdelivers⟩ := mean_isNearest (Or.inl rfl) hlength hsum
  refine ⟨Or.inl rfl, hlength, hsum, hmean, ?_⟩
  by_cases hrange : InRange y
  · obtain ⟨r, hr, rfl, -⟩ := (hdelivers y hy).ok_of_inRange hrange
    obtain rfl := Value.number.inj (Except.ok.inj (hmean.symm.trans hr))
    exact hy
  · exact absurd (hmean.symm.trans ((hdelivers y hy).overflow_of_not_inRange hrange)) (by simp)

/-! ### Accrued errors -/

lemma roundoff_nonneg : 0 ≤ roundoff := by norm_num [roundoff]

lemma accruedError_nonneg (k : ℕ) : 0 ≤ accruedError k :=
  sub_nonneg.mpr (one_le_pow₀ (le_add_of_nonneg_right roundoff_nonneg))

lemma accruedError_succ (k : ℕ) : accruedError (k + 1) = (1 + roundoff) * accruedError k + roundoff := by
  rw [accruedError, accruedError]
  ring

lemma IsNearest.abs_sub_le_roundoff {x y : ℚ} (h : IsNearest 64 x y) : |y - x| ≤ |x| * roundoff := by
  obtain ⟨z, hz⟩ := exists_isRounded 64 x
  obtain rfl := hz.eq_of_isNearest (by decide) h
  by_cases hx : x = 0
  · rw [hx, (hz.eq_zero_iff (by decide)).mpr hx, sub_zero, abs_zero, zero_mul]
  · obtain ⟨q, t, m, hunits⟩ := hz.exists_inUnits (by decide) hx
    have hle : (10 ^ 63 : ℚ) ≤ |t| := by exact_mod_cast hunits.le_abs
    rw [abs_sub_comm, hunits.dist, hunits.eq_mul, abs_mul, abs_of_pos (ten_zpow_pos q), mul_right_comm]
    apply mul_le_mul_of_nonneg_right _ (ten_zpow_pos q).le
    calc |t - m| ≤ 1 / 2 := hunits.rounds.1
      _ = 10 ^ 63 * roundoff := by norm_num [roundoff]
      _ ≤ |t| * roundoff := mul_le_mul_of_nonneg_right hle roundoff_nonneg

section IsWithin

variable {k : ℕ} {b x y : ℚ}

lemma isWithin_self (x : ℚ) : IsWithin 0 |x| x x := by
  refine ⟨le_refl _, ?_⟩
  simp [accruedError]

lemma IsWithin.add (h : IsWithin k b x y) (z : ℚ) : IsWithin k (b + |z|) (x + z) (y + z) := by
  refine ⟨(abs_add_le x z).trans (add_le_add_left h.abs_le _), ?_⟩
  rw [add_sub_add_right_eq_sub]
  have hmore : b ≤ b + |z| := le_add_of_nonneg_right (abs_nonneg z)
  exact h.error_le.trans (mul_le_mul_of_nonneg_left hmore (accruedError_nonneg k))

lemma IsWithin.div (h : IsWithin k b x y) {c : ℚ} (hc : 0 < c) : IsWithin k (b / c) (x / c) (y / c) := by
  constructor
  · rw [abs_div, abs_of_pos hc]
    exact div_le_div_of_nonneg_right h.abs_le hc.le
  · rw [← sub_div, abs_div, abs_of_pos hc, ← mul_div_assoc]
    exact div_le_div_of_nonneg_right h.error_le hc.le

/-- A further rounding. -/
lemma IsWithin.round (h : IsWithin k b x y) {z : ℚ} (hz : |z - y| ≤ |y| * roundoff) :
    IsWithin (k + 1) b x z := by
  refine ⟨h.abs_le, ?_⟩
  have hy : |y| ≤ b + accruedError k * b := by
    have htriangle := abs_add_le x (y - x)
    rw [add_sub_cancel] at htriangle
    linarith [h.abs_le, h.error_le]
  calc |z - x| ≤ |z - y| + |y - x| := abs_sub_le z y x
    _ ≤ (b + accruedError k * b) * roundoff + accruedError k * b :=
      add_le_add (hz.trans (mul_le_mul_of_nonneg_right hy roundoff_nonneg)) h.error_le
    _ = accruedError (k + 1) * b := by
      rw [accruedError_succ]
      ring

end IsWithin

/-- The first number is added to zero, and each further one makes for a rounding. -/
lemma isWithin_total {n : Decimal} {ns : List Decimal} (hn : HasDigits 64 (value n)) {s : Decimal}
    (h : Operation.total ((n :: ns).map .number) = .ok s) :
    IsWithin ns.length ((n :: ns).map fun n => |value n|).sum ((n :: ns).map value).sum (value s) := by
  induction ns using List.reverseRecOn generalizing s with
  | nil =>
    rw [total_singleton hn h]
    simpa using isWithin_self (value n)
  | append_singleton ns m ih =>
    rw [← List.cons_append] at h ⊢
    obtain ⟨t, ht, hs⟩ := total_append_eq_ok_iff.mp h
    have hstep := (ih ht).add (value m)
    have hround := (working_eq_ok_iff.mp hs).1.abs_sub_le_roundoff
    rw [value_add] at hround
    simpa [add_assoc] using hstep.round hround

/-! ### Extremes -/

/-- Extremes are numbers that are offered, and none precedes them. -/
lemma exists_extreme {args : List Value} {ns : List Decimal} (hargs : Offers args ns) (hne : ns ≠ [])
    (descending : Bool) :
    ∃ a ∈ ns, Operation.extreme (direction descending) args = .ok (.number a) ∧
      ∀ n ∈ ns, compare (value n) (value a) ≠ direction descending := by
  obtain ⟨first, rest, rfl⟩ := List.exists_cons_of_ne_nil hne
  have hkinds : ∀ v ∈ (first :: rest).map Value.number, v.kind = .number := by
    intro v hv
    obtain ⟨n, -, rfl⟩ := List.mem_map.mp hv
    rfl
  have hordered : IsOrdered .number := by simp [IsOrdered]
  have hkeys : HasKeys .number none ((first :: rest).map Value.number) := fun v hv => ⟨v, rfl, hkinds v hv⟩
  have hleast := isFirstLeast_foldl (strictWeakOn_standsBefore hordered hkeys descending)
  obtain ⟨a, ha, hextreme⟩ := List.mem_map.mp (List.map_cons ▸ hleast.mem)
  refine ⟨a, ha, ?_, fun n hn heq => ?_⟩
  · rw [hextreme, Operation.extreme, onItems_of_offers _ hargs]
    exact extreme_eq hordered _ hkinds
  · have hnot := hleast.least (.number n) (List.mem_map_of_mem hn)
    rw [← hextreme, standsBefore, orderAt_none] at hnot
    change (some (n.cmp a) == some (direction descending)) = false at hnot
    rw [decimal_cmp_eq, heq] at hnot
    simp at hnot

lemma exists_minimum {args : List Value} {ns : List Decimal} (hargs : Offers args ns) (hne : ns ≠ []) :
    ∃ lo ∈ ns, Operation.extreme .lt args = .ok (.number lo) ∧ ∀ n ∈ ns, value lo ≤ value n := by
  obtain ⟨lo, hlo, hextreme, hleast⟩ := exists_extreme hargs hne false
  exact ⟨lo, hlo, hextreme, fun n hn => not_lt.mp fun hlt => hleast n hn (compare_lt_iff_lt.mpr hlt)⟩

lemma exists_maximum {args : List Value} {ns : List Decimal} (hargs : Offers args ns) (hne : ns ≠ []) :
    ∃ hi ∈ ns, Operation.extreme .gt args = .ok (.number hi) ∧ ∀ n ∈ ns, value n ≤ value hi := by
  obtain ⟨hi, hhi, hextreme, hleast⟩ := exists_extreme hargs hne true
  exact ⟨hi, hhi, hextreme, fun n hn => not_lt.mp fun hlt => hleast n hn (compare_gt_iff_gt.mpr hlt)⟩

/-! ### Bounds of means -/

/-- The mean of the magnitudes of numbers. -/
def meanMagnitude (ns : List Decimal) : ℚ := (ns.map fun n => |value n|).sum / ns.length

lemma IsHeld.hasDigits {n : Decimal} (h : IsHeld n) : HasDigits 64 (value n) :=
  (hasDigits_value_iff (by decide)).mpr h.1

section Bounds

variable {ns : List Decimal} {s r : Decimal}

lemma length_mul_le_sum {lo : ℚ} (h : ∀ n ∈ ns, lo ≤ value n) : ns.length * lo ≤ (ns.map value).sum := by
  have hle := List.card_nsmul_le_sum (ns.map value) lo (List.forall_mem_map.mpr h)
  rwa [List.length_map, nsmul_eq_mul] at hle

lemma sum_le_length_mul {hi : ℚ} (h : ∀ n ∈ ns, value n ≤ hi) : (ns.map value).sum ≤ ns.length * hi := by
  have hle := List.sum_le_card_nsmul (ns.map value) hi (List.forall_mem_map.mpr h)
  rwa [List.length_map, nsmul_eq_mul] at hle

variable (hne : ns ≠ []) (hr : Operation.working (s.div (.ofInt ns.length)) = .ok r)

include hne hr

/-- Neither the division nor the rounding of its result goes below a number with few digits. -/
lemma le_of_length_mul_le {lo : Decimal} (hlo : IsHeld lo) (hle : ns.length * value lo ≤ value s) :
    value lo ≤ value r := by
  have hpos : (0 : ℚ) < ns.length := by exact_mod_cast List.length_pos_iff.mpr hne
  have hexact : value lo ≤ value s / ns.length := by rwa [le_div_iff₀ hpos, mul_comm]
  have hquotient := (isQuotient_div_length s hne).ge_of_hasDigits hlo.hasDigits hexact
  exact (isNearest_self hlo.hasDigits).le_of_le (by decide) (working_eq_ok_iff.mp hr).1 hquotient

lemma le_of_le_length_mul {hi : Decimal} (hhi : IsHeld hi) (hle : value s ≤ ns.length * value hi) :
    value r ≤ value hi := by
  have hpos : (0 : ℚ) < ns.length := by exact_mod_cast List.length_pos_iff.mpr hne
  have hexact : value s / ns.length ≤ value hi := by rwa [div_le_iff₀ hpos, mul_comm]
  have hquotient := (isQuotient_div_length s hne).le_of_hasDigits hhi.hasDigits hexact
  exact (working_eq_ok_iff.mp hr).1.le_of_le (by decide) (isNearest_self hhi.hasDigits) hquotient

/-- To the roundings of the total, the division and the rounding of its result add two. -/
lemma isWithin_mean (hheld : ∀ n ∈ ns, IsHeld n) (hs : Operation.total (ns.map .number) = .ok s) :
    IsWithin (ns.length + 1) (meanMagnitude ns) ((ns.map value).sum / ns.length) (value r) := by
  have hpos : (0 : ℚ) < ns.length := by exact_mod_cast List.length_pos_iff.mpr hne
  have hdivision : |value (s.div (.ofInt ns.length)) - value s / ns.length| ≤
      |value s / ns.length| * roundoff := by
    refine (isQuotient_div_length s hne).abs_sub_le.trans (mul_le_mul_of_nonneg_left ?_ (abs_nonneg _))
    norm_num [roundoff]
  have hround := (working_eq_ok_iff.mp hr).1.abs_sub_le_roundoff
  obtain ⟨n, ns, rfl⟩ := List.exists_cons_of_ne_nil hne
  have htotal := isWithin_total (hheld n List.mem_cons_self).hasDigits hs
  exact ((htotal.div hpos).round hdivision).round hround

end Bounds

/-- A mean is not below the minimum if the sum is not below its multiple by the count, and not above the
maximum if the sum is not above that one's. So it is if no sum is rounded, and the mean of copies is then
the number itself. In any case the mean is beyond the extremes by no more than the rounding errors. -/
theorem mean_between {args : List Value} {ns : List Decimal} (hargs : Offers args ns) (hne : ns ≠ [])
    (hheld : ∀ n ∈ ns, IsHeld n) :
    ∃ lo hi, Operation.extreme .lt args = .ok (.number lo) ∧
      Operation.extreme .gt args = .ok (.number hi) ∧
      ∀ r, Operation.mean args = .ok (.number r) → ∃ s, Operation.sum args = .ok (.number s) ∧
        (ns.length * value lo ≤ value s → value lo ≤ value r) ∧
        (value s ≤ ns.length * value hi → value r ≤ value hi) ∧
        ((∀ ms, ms <+: ns → HasDigits 64 (ms.map value).sum) →
          value lo ≤ value r ∧ value r ≤ value hi ∧ ∀ n, (∀ m ∈ ns, m = n) → r = n.normalize) ∧
        value lo - accruedError (ns.length + 1) * meanMagnitude ns ≤ value r ∧
        value r ≤ value hi + accruedError (ns.length + 1) * meanMagnitude ns := by
  obtain ⟨lo, hlo, hmin, hleast⟩ := exists_minimum hargs hne
  obtain ⟨hi, hhi, hmax, hgreatest⟩ := exists_maximum hargs hne
  refine ⟨lo, hi, hmin, hmax, fun r hr => ?_⟩
  obtain ⟨s, hs, hr⟩ := (mean_eq_ok_iff hargs hne).mp hr
  have hbelow := le_of_length_mul_le hne hr (hheld lo hlo)
  have habove := le_of_le_length_mul hne hr (hheld hi hhi)
  refine ⟨s, (sum_eq_ok_iff hargs hne).mpr hs, hbelow, habove, fun hexact => ?_, ?_⟩
  · have hsum : value s = (ns.map value).sum := by
      rw [((total_eq_ok_iff hexact).mp hs).1, value_exactTotal]
    rw [hsum] at hbelow habove
    have hge := hbelow (length_mul_le_sum hleast)
    have hle := habove (sum_le_length_mul hgreatest)
    refine ⟨hge, hle, fun n hn => ?_⟩
    rw [hn lo hlo] at hge
    rw [hn hi hhi] at hle
    rw [← normalize_eq_self (working_eq_ok_iff.mp hr).2.2, normalize_eq_iff]
    exact le_antisymm hle hge
  · have hpos : (0 : ℚ) < ns.length := by exact_mod_cast List.length_pos_iff.mpr hne
    have hge : value lo ≤ (ns.map value).sum / ns.length := by
      rw [le_div_iff₀ hpos, mul_comm]
      exact length_mul_le_sum hleast
    have hle : (ns.map value).sum / ns.length ≤ value hi := by
      rw [div_le_iff₀ hpos, mul_comm]
      exact sum_le_length_mul hgreatest
    have herror := abs_le.mp (isWithin_mean hne hr hheld hs).error_le
    constructor <;> linarith

/-- Nines that leave room for one more digit. -/
def fewerNines : Decimal := ⟨10 ^ 63 - 1, 0⟩

/-- Copies whose sums need no more digits than a number has. -/
def threeCopies : List Decimal := [fewerNines, fewerNines, fewerNines]

lemma eq_of_mem_threeCopies {n : Decimal} (h : n ∈ threeCopies) : n = fewerNines := by
  simpa [threeCopies] using h

lemma fitsUnit_threeCopies : FitsUnit 0 threeCopies where
  exists_multiple n hn := ⟨n.digits, by
    rw [eq_of_mem_threeCopies hn]
    rfl⟩
  sum_abs_lt := by norm_num [threeCopies, fewerNines, value, abs_of_pos]

/-- The mean of the copies is the number again. -/
theorem mean_between_threeCopies :
    Offers (threeCopies.map .number) threeCopies ∧ threeCopies ≠ [] ∧ (∀ n ∈ threeCopies, IsHeld n) ∧
      (∀ ms, ms <+: threeCopies → HasDigits 64 (ms.map value).sum) ∧
      ∃ lo hi r, Operation.extreme .lt (threeCopies.map .number) = .ok (.number lo) ∧
        Operation.extreme .gt (threeCopies.map .number) = .ok (.number hi) ∧
        Operation.mean (threeCopies.map .number) = .ok (.number r) ∧
        value lo ≤ value r ∧ value r ≤ value hi ∧ r = fewerNines.normalize := by
  have hargs : Offers (threeCopies.map .number) threeCopies := Or.inr rfl
  have hne : threeCopies ≠ [] := List.cons_ne_nil _ _
  have hheld : ∀ n ∈ threeCopies, IsHeld n := by
    intro n hn
    rw [eq_of_mem_threeCopies hn]
    exact isHeld_ofInt (k := 10 ^ 63 - 1) (by decide)
  have hexact (ms : List Decimal) (hms : ms <+: threeCopies) : HasDigits 64 (ms.map value).sum :=
    (fitsUnit_threeCopies.sublist hms.sublist).hasDigits
  have hmean : Operation.mean (threeCopies.map .number) = .ok (.number fewerNines) := by cbv
  obtain ⟨lo, hi, hlo, hhi, hbetween⟩ := mean_between hargs hne hheld
  obtain ⟨s, -, -, -, hgiven, -⟩ := hbetween fewerNines hmean
  obtain ⟨hge, hle, hcopies⟩ := hgiven hexact
  exact ⟨hargs, hne, hheld, hexact, lo, hi, fewerNines, hlo, hhi, hmean, hge, hle,
    hcopies fewerNines fun m => eq_of_mem_threeCopies⟩

/-- The greatest whole number that is written with 64 digits. -/
def manyNines : Decimal := ⟨10 ^ 64 - 1, 0⟩

/-- The sum of two copies is rounded up, so that the mean is above both. -/
theorem mean_above_maximum :
    IsHeld manyNines ∧
      Operation.mean [.list [.number manyNines, .number manyNines]] = .ok (.number ⟨1, -64⟩) ∧
      Operation.extreme .gt [.list [.number manyNines, .number manyNines]] = .ok (.number manyNines) ∧
      value manyNines < value ⟨1, -64⟩ := by
  refine ⟨isHeld_ofInt (k := 10 ^ 64 - 1) (by decide), by cbv, rfl, ?_⟩
  norm_num [manyNines, value]

end Feel.Proofs
