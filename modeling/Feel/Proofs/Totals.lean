import Feel.Proofs.NearestDecimals

/-!
# Totals

A total adds numbers one after the other and rounds each sum to the working precision. As long as the sums
have at most 64 digits nothing is rounded off. So it is for multiples of one power of ten whose magnitudes
add up to fewer than 64 digits of it: however such numbers are arranged, grouped and handed over, the total
is exact.
-/

namespace Feel.Proofs

/-- Arguments that offer numbers: in one list, or one by one. -/
def Offers (args : List Value) (ns : List Decimal) : Prop :=
  args = [.list (ns.map .number)] ∨ args = ns.map .number

/-- The sum of numbers without any rounding, in normal form. -/
def exactTotal (ns : List Decimal) : Decimal := (ns.foldl Decimal.add .zero).normalize

/-- All numbers are multiples of `10 ^ (-k)`, and their magnitudes add up to less than 64 digits of it. -/
structure FitsUnit (k : ℤ) (ns : List Decimal) : Prop where
  exists_multiple : ∀ n ∈ ns, ∃ m : ℤ, value n = m * (10 : ℚ) ^ (-k)
  sum_abs_lt : (ns.map fun n => |value n|).sum < 10 ^ (64 - k)

/-! ### Sums without rounding -/

lemma value_foldl_add (ns : List Decimal) : value (ns.foldl Decimal.add .zero) = (ns.map value).sum := by
  induction ns using List.reverseRecOn with
  | nil => exact value_zero
  | append_singleton ns n ih => simp [ih]

@[simp] lemma value_exactTotal (ns : List Decimal) : value (exactTotal ns) = (ns.map value).sum := by
  rw [exactTotal, value_normalize, value_foldl_add]

lemma isNormal_exactTotal (ns : List Decimal) : IsNormal (exactTotal ns) := isNormal_normalize _

lemma exactTotal_congr {ms ns : List Decimal} (h : (ms.map value).sum = (ns.map value).sum) :
    exactTotal ms = exactTotal ns :=
  eq_of_value_eq (isNormal_exactTotal ms) (isNormal_exactTotal ns) (by simpa using h)

/-! ### Arguments -/

/-- What is offered one by one is taken like the items of one list. -/
lemma onItems_of_offers (f : Value → List Value → Except Fault Value) {args : List Value} {n : Decimal}
    {ns : List Decimal} (h : Offers args (n :: ns)) :
    Operation.onItems f args = f (.number n) (ns.map .number) := by
  obtain rfl | rfl := h
  · rfl
  · cases ns <;> rfl

lemma sum_of_offers {args : List Value} {ns : List Decimal} (h : Offers args ns) (hne : ns ≠ []) :
    Operation.sum args = (Operation.total (ns.map .number)).map Value.ofDecimal := by
  obtain ⟨n, ns, rfl⟩ := List.exists_cons_of_ne_nil hne
  rw [Operation.sum, onItems_of_offers _ h, List.map_cons]
  cases Operation.total (.number n :: ns.map .number) <;> rfl

/-! ### Running totals -/

/-- A total goes on from the total of the numbers before. -/
lemma total_append_singleton (ns : List Decimal) (n : Decimal) :
    Operation.total ((ns ++ [n]).map .number) =
      (Operation.total (ns.map .number)).bind fun s => Operation.working (s.add n) := by
  simp only [List.map_append, List.map_singleton, Operation.total, Operation.accumulate, List.foldlM_append,
    List.foldlM_cons, List.foldlM_nil, bind_pure]
  rfl

lemma total_append_eq_ok_iff {ns : List Decimal} {n r : Decimal} :
    Operation.total ((ns ++ [n]).map .number) = .ok r ↔
      ∃ s, Operation.total (ns.map .number) = .ok s ∧ Operation.working (s.add n) = .ok r := by
  rw [total_append_singleton]
  cases Operation.total (ns.map .number) <;> simp [Except.bind]

lemma hasDigits_of_total {ns : List Decimal} {s : Decimal} (h : Operation.total (ns.map .number) = .ok s) :
    HasDigits 64 (value s) ∧ IsNormal s := by
  obtain rfl | ⟨ns, n, rfl⟩ := List.eq_nil_or_concat' ns
  · obtain rfl := Except.ok.inj h
    exact ⟨value_zero ▸ hasDigits_zero 64, Or.inl rfl⟩
  · obtain ⟨t, -, hs⟩ := total_append_eq_ok_iff.mp h
    obtain ⟨hnearest, -, hnormal⟩ := working_eq_ok_iff.mp hs
    exact ⟨hnearest.hasDigits, hnormal⟩

/-- The total of numbers has its normal form already. -/
lemma sum_eq_ok_iff {args : List Value} {ns : List Decimal} (h : Offers args ns) (hne : ns ≠ [])
    {s : Decimal} :
    Operation.sum args = .ok (.number s) ↔ Operation.total (ns.map .number) = .ok s := by
  rw [sum_of_offers h hne]
  cases htotal : Operation.total (ns.map .number) with
  | error fault => exact iff_of_false nofun nofun
  | ok t =>
    change Except.ok (Value.number t.normalize) = _ ↔ _
    rw [normalize_eq_self (hasDigits_of_total htotal).2]
    simp

/-! ### Totals without rounding -/

lemma working_eq_ok_iff_of_hasDigits {n r : Decimal} (h : HasDigits 64 (value n)) :
    Operation.working n = .ok r ↔ r = n.normalize ∧ InRange (value n) := by
  have hself : IsNearest 64 (value n) (value n.normalize) := by
    rw [value_normalize]
    exact isNearest_self h
  rw [working_eq_ok_iff]
  constructor
  · rintro ⟨hnearest, hrange, hnormal⟩
    have hvalue : value r = value n.normalize := (existsUnique_isNearest (by decide) n).unique hnearest hself
    refine ⟨eq_of_value_eq hnormal (isNormal_normalize n) hvalue, ?_⟩
    rwa [hvalue, value_normalize] at hrange
  · rintro ⟨rfl, hrange⟩
    refine ⟨hself, ?_, isNormal_normalize n⟩
    rwa [value_normalize]

lemma total_singleton {n s : Decimal} (hn : HasDigits 64 (value n))
    (h : Operation.total ([n].map .number) = .ok s) : value s = value n := by
  rw [← List.nil_append [n]] at h
  obtain ⟨t, ht, hs⟩ := total_append_eq_ok_iff.mp h
  obtain rfl := Except.ok.inj ht
  have hvalue : value (Decimal.zero.add n) = value n := by rw [value_add, value_zero, zero_add]
  rw [working_eq_ok_iff_of_hasDigits (hvalue ▸ hn)] at hs
  rw [hs.1, value_normalize, hvalue]

/-- As long as the sums have at most 64 digits, the total is the sum, and it is given if all the sums are in
range. -/
lemma total_eq_ok_iff {ns : List Decimal} (h : ∀ ms, ms <+: ns → HasDigits 64 (ms.map value).sum)
    {r : Decimal} :
    Operation.total (ns.map .number) = .ok r ↔
      r = exactTotal ns ∧ ∀ ms, ms <+: ns → InRange (ms.map value).sum := by
  induction ns using List.reverseRecOn generalizing r with
  | nil =>
    have hzero : exactTotal [] = .zero := rfl
    have hrange : InRange 0 := Or.inl rfl
    have hnil : Operation.total (List.map .number []) = .ok .zero := rfl
    rw [hnil, hzero]
    simp [List.prefix_nil, hrange, eq_comm]
  | append_singleton ns n ih =>
    have hshorter (ms : List Decimal) (hms : ms <+: ns) : ms <+: ns ++ [n] := hms.trans (List.prefix_append ns [n])
    have hadd : value ((exactTotal ns).add n) = ((ns ++ [n]).map value).sum := by simp
    have hnormal : ((exactTotal ns).add n).normalize = exactTotal (ns ++ [n]) :=
      eq_of_value_eq (isNormal_normalize _) (isNormal_exactTotal _) (by simp)
    have hdigits : HasDigits 64 (value ((exactTotal ns).add n)) := hadd ▸ h _ (List.prefix_refl _)
    simp only [total_append_eq_ok_iff, ih fun ms hms => h ms (hshorter ms hms)]
    constructor
    · rintro ⟨s, ⟨rfl, hbefore⟩, hr⟩
      rw [working_eq_ok_iff_of_hasDigits hdigits, hnormal, hadd] at hr
      refine ⟨hr.1, fun ms hms => ?_⟩
      obtain rfl | hms := List.prefix_concat_iff.mp hms
      · exact hr.2
      · exact hbefore ms hms
    · rintro ⟨rfl, hall⟩
      refine ⟨exactTotal ns, ⟨rfl, fun ms hms => hall ms (hshorter ms hms)⟩, ?_⟩
      rw [working_eq_ok_iff_of_hasDigits hdigits, hadd]
      exact ⟨hnormal.symm, hall _ (List.prefix_refl _)⟩

/-! ### Multiples of one power of ten -/

lemma abs_sum_le (xs : List ℚ) : |xs.sum| ≤ (xs.map abs).sum :=
  List.le_sum_of_subadditive abs abs_zero.le abs_add_le xs

section FitsUnit

variable {k : ℤ} {ms ns : List Decimal}

lemma FitsUnit.perm (h : FitsUnit k ns) (hperm : ms.Perm ns) : FitsUnit k ms where
  exists_multiple n hn := h.exists_multiple n (hperm.subset hn)
  sum_abs_lt := ((hperm.map _).sum_eq).trans_lt h.sum_abs_lt

lemma FitsUnit.sublist (h : FitsUnit k ns) (hsub : ms.Sublist ns) : FitsUnit k ms where
  exists_multiple n hn := h.exists_multiple n (hsub.subset hn)
  sum_abs_lt := by
    refine lt_of_le_of_lt ((hsub.map _).sum_le_sum fun x hx => ?_) h.sum_abs_lt
    obtain ⟨n, -, rfl⟩ := List.mem_map.mp hx
    exact abs_nonneg _

lemma exists_sum_eq_multiple (h : ∀ n ∈ ns, ∃ m : ℤ, value n = m * (10 : ℚ) ^ (-k)) :
    ∃ m : ℤ, (ns.map value).sum = m * (10 : ℚ) ^ (-k) := by
  induction ns with
  | nil => exact ⟨0, by simp⟩
  | cons n ns ih =>
    obtain ⟨i, hi⟩ := h n List.mem_cons_self
    obtain ⟨j, hj⟩ := ih fun n hn => h n (List.mem_cons_of_mem _ hn)
    refine ⟨i + j, ?_⟩
    rw [List.map_cons, List.sum_cons, hi, hj, Int.cast_add, add_mul]

lemma FitsUnit.abs_sum_lt (h : FitsUnit k ns) : |(ns.map value).sum| < 10 ^ (64 - k) := by
  refine (abs_sum_le _).trans_lt ?_
  rw [List.map_map]
  exact h.sum_abs_lt

/-- The sum of the numbers is a multiple of the unit itself, with at most 64 digits. -/
lemma FitsUnit.exists_sum_eq (h : FitsUnit k ns) :
    ∃ m : ℤ, |m| < 10 ^ 64 ∧ (ns.map value).sum = m * (10 : ℚ) ^ (-k) := by
  obtain ⟨m, hm⟩ := exists_sum_eq_multiple h.exists_multiple
  refine ⟨m, ?_, hm⟩
  have hlt := h.abs_sum_lt
  rw [hm, abs_mul, abs_of_pos (ten_zpow_pos _), sub_eq_add_neg, ten_zpow_add] at hlt
  exact_mod_cast lt_of_mul_lt_mul_right hlt (ten_zpow_pos _).le

lemma FitsUnit.hasDigits (h : FitsUnit k ns) : HasDigits 64 (ns.map value).sum := by
  obtain ⟨m, hm, hsum⟩ := h.exists_sum_eq
  exact ⟨m, -k, hm, hsum⟩

lemma FitsUnit.inRange (h : FitsUnit k ns) (hlo : -6081 ≤ k) (hhi : k ≤ 6144) :
    InRange (ns.map value).sum := by
  obtain ⟨m, -, hsum⟩ := h.exists_sum_eq
  have hlt := h.abs_sum_lt
  by_cases hzero : m = 0
  · left
    rw [hsum, hzero, Int.cast_zero, zero_mul]
  · right
    have hexp : HasExponent (ns.map value).sum (Decimal.exponent ⟨m, k⟩) := by
      rw [hsum]
      exact hasExponent_value hzero
    refine ⟨_, hexp, abs_le.mpr ⟨?_, ?_⟩⟩
    · -- A multiple of the unit that is not zero is not below the unit.
      have hone : (1 : ℚ) ≤ |(m : ℚ)| := by exact_mod_cast Int.one_le_abs hzero
      have hunit : (10 : ℚ) ^ (-k) ≤ |(ns.map value).sum| := by
        rw [hsum, abs_mul, abs_of_pos (ten_zpow_pos _)]
        exact le_mul_of_one_le_left (ten_zpow_pos _).le hone
      have hpow := (zpow_lt_zpow_iff_right₀ (by norm_num)).mp (hunit.trans_lt hexp.2)
      omega
    · have hpow := (zpow_lt_zpow_iff_right₀ (by norm_num)).mp (hexp.1.trans_lt hlt)
      omega

lemma total_of_fitsUnit (h : FitsUnit k ns) (hlo : -6081 ≤ k) (hhi : k ≤ 6144) :
    Operation.total (ns.map .number) = .ok (exactTotal ns) := by
  rw [total_eq_ok_iff fun ms hms => (h.sublist hms.sublist).hasDigits]
  exact ⟨rfl, fun ms hms => (h.sublist hms.sublist).inRange hlo hhi⟩

lemma sum_of_fitsUnit (h : FitsUnit k ns) (hlo : -6081 ≤ k) (hhi : k ≤ 6144) {args : List Value}
    (hargs : Offers args ns) (hne : ns ≠ []) : Operation.sum args = .ok (.number (exactTotal ns)) :=
  (sum_eq_ok_iff hargs hne).mpr (total_of_fitsUnit h hlo hhi)

/-- Totals of parts fit the unit as their numbers do. -/
lemma FitsUnit.exactTotals {parts : List (List Decimal)} (h : FitsUnit k parts.flatten) :
    FitsUnit k (parts.map exactTotal) where
  exists_multiple n hn := by
    obtain ⟨part, hpart, rfl⟩ := List.mem_map.mp hn
    rw [value_exactTotal]
    exact exists_sum_eq_multiple fun n hn => h.exists_multiple n (List.mem_flatten_of_mem hpart hn)
  sum_abs_lt := by
    refine lt_of_le_of_lt ?_ h.sum_abs_lt
    rw [List.map_map, List.map_flatten, List.sum_flatten, List.map_map]
    refine List.sum_le_sum fun part _ => ?_
    have hle := abs_sum_le (part.map value)
    rw [List.map_map] at hle
    rw [Function.comp_apply, value_exactTotal]
    exact hle

lemma sum_exactTotals (parts : List (List Decimal)) :
    ((parts.map exactTotal).map value).sum = (parts.flatten.map value).sum := by
  rw [List.map_flatten, List.sum_flatten, List.map_map, List.map_map]
  congr 1
  exact List.map_congr_left fun part _ => value_exactTotal part

/-- Such numbers have their exact sum as total, whatever their order and whether they are offered in one
list or one by one. The totals of parts are exact too, and so is the total of these totals. -/
theorem sum_exact (hlo : -6081 ≤ k) (hhi : k ≤ 6144) (h : FitsUnit k ns) (hne : ns ≠ []) :
    value (exactTotal ns) = (ns.map value).sum ∧
      (∀ ms, ms.Perm ns → ∀ args, Offers args ms →
        Operation.sum args = .ok (.number (exactTotal ns))) ∧
      ∀ parts : List (List Decimal), [] ∉ parts → parts.flatten.Perm ns →
        (∀ part ∈ parts, ∀ args, Offers args part →
          Operation.sum args = .ok (.number (exactTotal part))) ∧
        ∀ args, Offers args (parts.map exactTotal) →
          Operation.sum args = .ok (.number (exactTotal ns)) := by
  refine ⟨value_exactTotal ns, fun ms hperm args hargs => ?_, fun parts hparts hperm => ⟨?_, ?_⟩⟩
  · have hms : ms ≠ [] := fun hnil => hne (List.nil_perm.mp (hnil ▸ hperm))
    rw [sum_of_fitsUnit (h.perm hperm) hlo hhi hargs hms, exactTotal_congr (hperm.map value).sum_eq]
  · intro part hpart args hargs
    have hfits := (h.perm hperm).sublist (List.sublist_flatten_of_mem hpart)
    exact sum_of_fitsUnit hfits hlo hhi hargs fun hnil => hparts (hnil ▸ hpart)
  · intro args hargs
    have htotals : parts.map exactTotal ≠ [] := by
      rw [Ne, List.map_eq_nil_iff]
      rintro rfl
      exact hne (List.nil_perm.mp hperm)
    have hsame : exactTotal (parts.map exactTotal) = exactTotal ns :=
      exactTotal_congr ((sum_exactTotals parts).trans (hperm.map value).sum_eq)
    rw [sum_of_fitsUnit (h.perm hperm).exactTotals hlo hhi hargs htotals, hsame]

end FitsUnit

/-- Half of what fits 64 digits of the largest unit. -/
def largeHalf : Decimal := ⟨5 * 10 ^ 63, -6081⟩

/-- The other half without one unit, with the opposite sign. -/
def oppositeHalf : Decimal := ⟨1 - 5 * 10 ^ 63, -6081⟩

lemma fitsUnit_halves : FitsUnit (-6081) [largeHalf, oppositeHalf] where
  exists_multiple n hn := ⟨n.digits, by
    obtain rfl | rfl : n = largeHalf ∨ n = oppositeHalf := by simpa using hn
    · rfl
    · rfl⟩
  sum_abs_lt := by
    have hexp : (64 - -6081 : ℤ) = (64 : ℕ) + 6081 := by norm_num
    rw [List.map_cons, List.map_singleton, List.sum_cons, List.sum_singleton, abs_value, abs_value, hexp,
      ten_zpow_add, zpow_natCast]
    change _ * (10 : ℚ) ^ (6081 : ℤ) + _ * (10 : ℚ) ^ (6081 : ℤ) < _
    rw [← add_mul]
    refine mul_lt_mul_of_pos_right ?_ (ten_zpow_pos _)
    norm_num [largeHalf, oppositeHalf]

/-- The halves are added in either order, in a list or one by one, and by way of their own totals: all but
one unit is cancelled. -/
theorem sum_exact_halves :
    FitsUnit (-6081) [largeHalf, oppositeHalf] ∧ [largeHalf, oppositeHalf] ≠ [] ∧
      Operation.sum [.list [.number oppositeHalf, .number largeHalf]] = .ok (.number ⟨1, -6081⟩) ∧
      Operation.sum [.number largeHalf, .number oppositeHalf] = .ok (.number ⟨1, -6081⟩) ∧
      Operation.sum [.number (exactTotal [oppositeHalf]), .number (exactTotal [largeHalf])] =
        .ok (.number ⟨1, -6081⟩) := by
  obtain ⟨-, hsum, hparts⟩ := sum_exact (by decide) (by decide) fitsUnit_halves (by simp)
  have htotal : exactTotal [largeHalf, oppositeHalf] = ⟨1, -6081⟩ := by
    refine eq_of_value_eq (isNormal_exactTotal _) (Or.inr (by decide)) ?_
    rw [value_exactTotal, List.map_cons, List.map_singleton, List.sum_cons, List.sum_singleton]
    change _ * (10 : ℚ) ^ (6081 : ℤ) + _ * (10 : ℚ) ^ (6081 : ℤ) = _ * (10 : ℚ) ^ (6081 : ℤ)
    rw [← add_mul]
    norm_num [largeHalf, oppositeHalf]
  rw [htotal] at hsum hparts
  have hswap : [oppositeHalf, largeHalf].Perm [largeHalf, oppositeHalf] := List.Perm.swap _ _ _
  refine ⟨fitsUnit_halves, by simp, hsum _ hswap _ (Or.inl rfl), hsum _ (List.Perm.refl _) _ (Or.inr rfl), ?_⟩
  exact (hparts [[oppositeHalf], [largeHalf]] (by simp) hswap).2 _ (Or.inr rfl)

end Feel.Proofs
