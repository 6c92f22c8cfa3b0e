import Feel.Proofs.DecimalValue
import Feel.Value
import Mathlib

/-!
# The order of values

Values of one ordered kind are compared by their keys: a number by its value, a string by its characters,
a date by its day, times and date-times by the moment that they name and durations by their count. So
they are in a linear order, up to values of one key, and these are the values that are equal.
-/

namespace Feel.Proofs

/-- The kinds whose values have an order. -/
def IsOrdered : Kind → Prop
  | .number | .string | .date | .time | .dateTime | .monthsDuration | .timeDuration => True
  | .null | .boolean | .list | .context | .function => False

/-- The fields of a date as the digits of one number, which months and days do not overflow. -/
def dateKey (d : Date) : ℤ := (d.year * 13 + d.month) * 32 + d.day

/-- What decides a value's order among the values of its kind. Values of one kind differ in one
component only. -/
def orderKey : Value → ℚ ×ₗ String ×ₗ ℤ
  | .number n => toLex (value n, toLex ("", 0))
  | .string s => toLex (0, toLex (s, 0))
  | .date d => toLex (0, toLex ("", dateKey d))
  | .time t => toLex (0, toLex ("", t.utcNanos))
  | .dateTime t => toLex (0, toLex ("", t.instant))
  | .duration (.months n) => toLex (0, toLex ("", n))
  | .duration (.nanos n) => toLex (0, toLex ("", n))
  | .null | .boolean _ | .list _ | .context _ | .function _ => toLex (0, toLex ("", 0))

/-! ### Keys -/

lemma compare_key (x y : ℚ) (s t : String) (m n : ℤ) :
    compare (toLex (x, toLex (s, m)) : ℚ ×ₗ String ×ₗ ℤ) (toLex (y, toLex (t, n))) =
      (compare x y).then ((compare s t).then (compare m n)) := by
  rw [Prod.Lex.compare_def, compareLex, compareOn, compareOn, Prod.Lex.compare_def]
  rfl

lemma compare_mul_right {x y : ℤ} {c : ℚ} (hc : 0 < c) : compare (x * c) (y * c) = compare x y := by
  rcases lt_trichotomy x y with h | rfl | h
  · have hlt : (x : ℚ) * c < y * c := mul_lt_mul_of_pos_right (by exact_mod_cast h) hc
    rw [compare_lt_iff_lt.mpr h, compare_lt_iff_lt.mpr hlt]
  · rw [compare_eq_iff_eq.mpr rfl, compare_eq_iff_eq.mpr rfl]
  · have hlt : (y : ℚ) * c < x * c := mul_lt_mul_of_pos_right (by exact_mod_cast h) hc
    rw [compare_gt_iff_gt.mpr h, compare_gt_iff_gt.mpr hlt]

/-- Decimals are compared by value, whatever their scales. -/
lemma decimal_cmp_eq (a b : Decimal) : a.cmp b = compare (value a) (value b) := by
  obtain ⟨ha, hb⟩ := value_align a b
  rw [ha, hb, compare_mul_right (ten_zpow_pos _)]
  rfl

/-- Numbers with a last digit are compared by the digits before it first. -/
lemma compare_then_compare {x y : ℤ} {r s k : ℕ} (hr : r < k) (hs : s < k) :
    (compare x y).then (compare r s) = compare (x * k + r) (y * k + s) := by
  have hlt {x y : ℤ} {r s : ℕ} (hr : r < k) (h : x < y) : x * k + r < y * k + s := by
    have hle : (x + 1) * k ≤ y * k := mul_le_mul_of_nonneg_right h (Int.natCast_nonneg k)
    rw [add_mul, one_mul] at hle
    omega
  rcases lt_trichotomy x y with h | rfl | h
  · rw [compare_lt_iff_lt.mpr h, compare_lt_iff_lt.mpr (hlt hr h)]
    rfl
  · rw [compare_eq_iff_eq.mpr rfl, Ordering.eq_then]
    rcases lt_trichotomy r s with h | rfl | h
    · rw [compare_lt_iff_lt.mpr h, compare_lt_iff_lt.mpr (by omega)]
    · rw [compare_eq_iff_eq.mpr rfl, compare_eq_iff_eq.mpr rfl]
    · rw [compare_gt_iff_gt.mpr h, compare_gt_iff_gt.mpr (by omega)]
  · rw [compare_gt_iff_gt.mpr h, compare_gt_iff_gt.mpr (hlt hs h)]
    rfl

lemma date_month_lt (d : Date) : d.month < 13 := Nat.lt_succ_of_le d.valid.2.1.2

lemma date_day_lt (d : Date) : d.day < 32 := Nat.lt_succ_of_le (d.valid.2.2.2.trans (monthLength_le _ _))

lemma date_cmp_eq (a b : Date) : a.cmp b = compare (dateKey a) (dateKey b) := by
  rw [Date.cmp, ← Ordering.then_assoc, compare_then_compare (date_month_lt a) (date_month_lt b),
    compare_then_compare (date_day_lt a) (date_day_lt b)]
  rfl

/-! ### Values -/

/-- The form that values of an ordered kind have. -/
def FormOf : Kind → Value → Prop
  | .number, v => ∃ n, v = .number n
  | .string, v => ∃ s, v = .string s
  | .date, v => ∃ d, v = .date d
  | .time, v => ∃ t, v = .time t
  | .dateTime, v => ∃ t, v = .dateTime t
  | .monthsDuration, v => ∃ n, v = .duration (.months n)
  | .timeDuration, v => ∃ n, v = .duration (.nanos n)
  | .null, _ | .boolean, _ | .list, _ | .context, _ | .function, _ => True

lemma formOf_kind (v : Value) : FormOf v.kind v := by
  cases v with
  | number n => exact ⟨n, rfl⟩
  | string s => exact ⟨s, rfl⟩
  | date d => exact ⟨d, rfl⟩
  | time t => exact ⟨t, rfl⟩
  | dateTime t => exact ⟨t, rfl⟩
  | duration d => cases d with
    | months n => exact ⟨n, rfl⟩
    | nanos n => exact ⟨n, rfl⟩
  | _ => trivial

/-- Values of one ordered kind are compared by their keys. -/
theorem compare_eq {a b : Value} (ha : IsOrdered a.kind) (h : b.kind = a.kind) :
    a.compare b = .ok (compare (orderKey a) (orderKey b)) := by
  have hb := formOf_kind b
  rw [h] at hb
  cases a with
  | number m =>
    obtain ⟨n, rfl⟩ := hb
    simp [orderKey, compare_key, Value.compare, decimal_cmp_eq]
  | string s =>
    obtain ⟨t, rfl⟩ := hb
    simp [orderKey, compare_key, Value.compare]
  | date d =>
    obtain ⟨e, rfl⟩ := hb
    simp [orderKey, compare_key, Value.compare, date_cmp_eq]
  | time t =>
    obtain ⟨u, rfl⟩ := hb
    simp [orderKey, compare_key, Value.compare, OffsetTime.cmp]
  | dateTime t =>
    obtain ⟨u, rfl⟩ := hb
    simp [orderKey, compare_key, Value.compare, DateTime.cmp]
  | duration d => cases d with
    | months m =>
      obtain ⟨n, rfl⟩ := hb
      simp [orderKey, compare_key, Value.compare, Duration.cmp?]
    | nanos m =>
      obtain ⟨n, rfl⟩ := hb
      simp [orderKey, compare_key, Value.compare, Duration.cmp?]
  | _ => exact ha.elim

/-! ### Equality of one kind -/

@[simp] lemma number_beq {a b : Decimal} : (Value.number a == Value.number b) = true ↔ value a = value b :=
  same_iff

@[simp] lemma string_beq {a b : String} : (Value.string a == Value.string b) = true ↔ a = b :=
  show (a == b) = true ↔ a = b from beq_iff_eq

@[simp] lemma date_beq {a b : Date} : (Value.date a == Value.date b) = true ↔ a = b :=
  show (a == b) = true ↔ a = b from beq_iff_eq

@[simp] lemma time_beq {a b : OffsetTime} :
    (Value.time a == Value.time b) = true ↔ a.utcNanos = b.utcNanos :=
  show (a.utcNanos == b.utcNanos) = true ↔ _ from beq_iff_eq

@[simp] lemma dateTime_beq {a b : DateTime} :
    (Value.dateTime a == Value.dateTime b) = true ↔ a.instant = b.instant :=
  show (a.instant == b.instant) = true ↔ _ from beq_iff_eq

@[simp] lemma duration_beq {a b : Duration} : (Value.duration a == Value.duration b) = true ↔ a = b :=
  show (a == b) = true ↔ a = b from beq_iff_eq

/-! ### Order and equality -/

/-- Values of different kinds are not equal. -/
lemma kind_eq_of_beq {a b : Value} (h : a == b) : a.kind = b.kind := by
  have hsame : a.same b = true := h
  unfold Value.same at hsame
  split at hsame
  case h_8 d e => rw [eq_of_beq hsame]
  case h_12 => exact Bool.noConfusion hsame
  all_goals rfl

lemma dateKey_injective : Function.Injective dateKey := by
  intro a b h
  have hmonthA := date_month_lt a
  have hmonthB := date_month_lt b
  have hdayA := date_day_lt a
  have hdayB := date_day_lt b
  cases a
  cases b
  simp only [dateKey] at *
  rw [Date.mk.injEq]
  omega

/-- Values of one ordered kind are equal if they have one key. -/
lemma beq_iff_orderKey_eq {a b : Value} (ha : IsOrdered a.kind) (h : b.kind = a.kind) :
    a == b ↔ orderKey a = orderKey b := by
  have hb := formOf_kind b
  rw [h] at hb
  cases a with
  | number m =>
    obtain ⟨n, rfl⟩ := hb
    simp [orderKey]
  | string s =>
    obtain ⟨t, rfl⟩ := hb
    simp [orderKey]
  | date d =>
    obtain ⟨e, rfl⟩ := hb
    simp [orderKey, dateKey_injective.eq_iff]
  | time t =>
    obtain ⟨u, rfl⟩ := hb
    simp [orderKey]
  | dateTime t =>
    obtain ⟨u, rfl⟩ := hb
    simp [orderKey]
  | duration d => cases d with
    | months m =>
      obtain ⟨n, rfl⟩ := hb
      simp [orderKey]
    | nanos m =>
      obtain ⟨n, rfl⟩ := hb
      simp [orderKey]
  | _ => exact ha.elim

/-- Between other values a comparison is a type error. -/
lemma compare_eq_error {a b : Value} (h : ¬(IsOrdered a.kind ∧ b.kind = a.kind)) :
    a.compare b = .error (.wrongKind (.kind a.kind) b.kind) := by
  unfold Value.compare
  split
  case h_6 d e =>
    cases d <;> cases e
    case months.nanos | nanos.months => rfl
    all_goals exact absurd ⟨trivial, rfl⟩ h
  case h_7 => rfl
  all_goals exact absurd ⟨trivial, rfl⟩ h

/-- A comparison succeeds between values of one ordered kind, and answers how their keys compare. -/
lemma compare_eq_ok_iff {a b : Value} {order : Ordering} :
    a.compare b = .ok order ↔
      (IsOrdered a.kind ∧ b.kind = a.kind) ∧ compare (orderKey a) (orderKey b) = order := by
  by_cases h : IsOrdered a.kind ∧ b.kind = a.kind
  · rw [compare_eq h.1 h.2, Except.ok.injEq, and_iff_right h]
  · rw [compare_eq_error h]
    exact iff_of_false (by simp) fun hok => h hok.1

/-- Two values have an order. -/
def Comparable (a b : Value) : Prop := ∃ order, a.compare b = .ok order

/-- The first of two values that have an order is not the greater one. -/
def NotGreater (a b : Value) : Prop := ∃ order, a.compare b = .ok order ∧ order ≠ .gt

lemma comparable_iff {a b : Value} : Comparable a b ↔ IsOrdered a.kind ∧ b.kind = a.kind := by
  simp [Comparable, compare_eq_ok_iff]

lemma notGreater_iff {a b : Value} :
    NotGreater a b ↔ (IsOrdered a.kind ∧ b.kind = a.kind) ∧ orderKey a ≤ orderKey b := by
  simp [NotGreater, compare_eq_ok_iff, ← compare_le_iff_le]

lemma Comparable.symm {a b : Value} (h : Comparable a b) : Comparable b a := by
  rw [comparable_iff] at *
  exact ⟨by rw [h.2]; exact h.1, h.2.symm⟩

lemma Comparable.trans {a b c : Value} (hab : Comparable a b) (hbc : Comparable b c) : Comparable a c := by
  rw [comparable_iff] at *
  exact ⟨hab.1, hbc.2.trans hab.2⟩

/-- `compare` is a total order on the values of each ordered kind, up to equality, and a type error
between all other values. -/
theorem compare_isTotalOrder (a b c : Value) :
    (Comparable a b ↔ IsOrdered a.kind ∧ b.kind = a.kind) ∧
    (¬Comparable a b → a.compare b = .error (.wrongKind (.kind a.kind) b.kind)) ∧
    (Comparable a b ↔ Comparable b a) ∧
    (Comparable a b → Comparable b c → Comparable a c) ∧
    (∀ order, a.compare b = .ok order → b.compare a = .ok order.swap ∧ (order = .eq ↔ a == b)) ∧
    (Comparable a b → NotGreater a b ∨ NotGreater b a) ∧
    (NotGreater a b → NotGreater b a → a == b) ∧
    (NotGreater a b → NotGreater b c → NotGreater a c) := by
  refine ⟨comparable_iff, fun h => compare_eq_error (comparable_iff.not.mp h),
    ⟨Comparable.symm, Comparable.symm⟩, Comparable.trans, fun order h => ?_, fun h => ?_,
    fun hab hba => ?_, fun hab hbc => ?_⟩
  · have hba := comparable_iff.mp (Comparable.symm ⟨order, h⟩)
    obtain ⟨hkind, rfl⟩ := compare_eq_ok_iff.mp h
    refine ⟨compare_eq_ok_iff.mpr ⟨hba, Std.OrientedOrd.eq_swap⟩, ?_⟩
    rw [compare_eq_iff_eq, beq_iff_orderKey_eq hkind.1 hkind.2]
  · rw [notGreater_iff, notGreater_iff, and_iff_right (comparable_iff.mp h),
      and_iff_right (comparable_iff.mp h.symm)]
    exact le_total _ _
  · rw [notGreater_iff] at *
    rw [beq_iff_orderKey_eq hab.1.1 hab.1.2]
    exact le_antisymm hab.2 hba.2
  · have hac : Comparable a c :=
      Comparable.trans (hab.imp fun _ h => h.1) (hbc.imp fun _ h => h.1)
    rw [notGreater_iff] at *
    exact ⟨comparable_iff.mp hac, hab.2.trans hbc.2⟩

/-- Two forms of 1.5, which are equal, and 2. -/
theorem compare_isTotalOrder_decimals :
    let a := Value.number ⟨150, 2⟩
    let b := Value.number ⟨15, 1⟩
    let c := Value.number ⟨2, 0⟩
    a.compare b = .ok .eq ∧ b.compare c = .ok .lt ∧ a == b ∧ c.compare b = .ok .gt ∧
      NotGreater a b ∧ NotGreater b c ∧ NotGreater a c ∧ ¬Comparable a .null ∧
      a.compare .null = .error (.wrongKind (.kind .number) .null) := by
  intro a b c
  have hab : a.compare b = .ok .eq := by decide +kernel
  have hbc : b.compare c = .ok .lt := by decide +kernel
  have hnull : ¬Comparable a .null := by simp [comparable_iff, a, Value.kind]
  have hLeAB : NotGreater a b := ⟨.eq, hab, by decide⟩
  have hLeBC : NotGreater b c := ⟨.lt, hbc, by decide⟩
  obtain ⟨-, -, -, -, hequal, -, -, htrans⟩ := compare_isTotalOrder a b c
  obtain ⟨-, -, -, -, hswap, -⟩ := compare_isTotalOrder b c a
  obtain ⟨-, herror, -⟩ := compare_isTotalOrder a .null a
  exact ⟨hab, hbc, (hequal .eq hab).2.mp rfl, (hswap .lt hbc).1, hLeAB, hLeBC, htrans hLeAB hLeBC,
    hnull, herror hnull⟩

end Feel.Proofs
