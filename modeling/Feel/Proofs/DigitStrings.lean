import Feel.Digits
import Mathlib

/-!
# Digit strings

The value of a digit string is positional, so that it is additive under concatenation and blind to
leading zeros. `Digits.ofNat` writes a number without leading zeros and is undone by `Digits.toNat`;
`Digits.count` is the length of what it writes, that is, the place of the leading digit.
-/

namespace Feel.Proofs
open Digits

/-! ### Reading -/

lemma place_eq (k : Nat) : place k = 10 ^ k := rfl

/-- Every character is a decimal digit. -/
def AllDigits (cs : List Char) : Prop := ∀ c ∈ cs, c.isDigit = true

lemma all_isDigit {cs : List Char} : cs.all Char.isDigit = true ↔ AllDigits cs := List.all_eq_true

lemma AllDigits.append {a b : List Char} (ha : AllDigits a) (hb : AllDigits b) : AllDigits (a ++ b) := by
  intro c hc
  exact (List.mem_append.mp hc).elim (ha c) (hb c)

lemma allDigits_append {a b : List Char} : AllDigits (a ++ b) ↔ AllDigits a ∧ AllDigits b :=
  List.forall_mem_append

lemma allDigits_replicate_zero (n : Nat) : AllDigits (List.replicate n '0') := by
  intro c hc
  rw [List.eq_of_mem_replicate hc]
  rfl

lemma isNumber_iff {cs : List Char} : isNumber cs = true ↔ cs ≠ [] ∧ AllDigits cs := by
  simp [isNumber, AllDigits]

lemma isDigit_iff {c : Char} : c.isDigit = true ↔ 48 ≤ c.toNat ∧ c.toNat ≤ 57 := by
  simp only [Char.isDigit, Bool.and_eq_true, decide_eq_true_eq, ge_iff_le, UInt32.le_iff_toNat_le]
  rfl

lemma toNat_append (a b : List Char) : Digits.toNat (a ++ b) = Digits.toNat a * 10 ^ b.length + Digits.toNat b := by
  induction b using List.reverseRecOn with
  | nil => simp [Digits.toNat]
  | append_singleton b c ih =>
    rw [← List.append_assoc]
    simp only [Digits.toNat, List.foldl_append, List.foldl_cons, List.foldl_nil] at ih ⊢
    rw [ih, List.length_append, List.length_singleton, pow_succ]
    ring

lemma toNat_singleton (c : Char) : Digits.toNat [c] = c.toNat - 48 := by simp [Digits.toNat]

@[simp] lemma toNat_nil : Digits.toNat [] = 0 := rfl

lemma toNat_cons (c : Char) (cs : List Char) :
    Digits.toNat (c :: cs) = (c.toNat - 48) * 10 ^ cs.length + Digits.toNat cs := by
  rw [← List.singleton_append, toNat_append, toNat_singleton]

@[simp] lemma toNat_replicate_zero (n : Nat) : Digits.toNat (List.replicate n '0') = 0 := by
  induction n with
  | zero => rfl
  | succ n ih =>
    rw [List.replicate_succ, toNat_cons, ih]
    simp

lemma toNat_lt {cs : List Char} (h : AllDigits cs) : Digits.toNat cs < 10 ^ cs.length := by
  induction cs using List.reverseRecOn with
  | nil => simp
  | append_singleton cs c ih =>
    obtain ⟨hcs, hc⟩ := allDigits_append.mp h
    have hlt := ih hcs
    have hc := isDigit_iff.mp (hc c (by simp))
    rw [toNat_append, toNat_singleton, List.length_append, List.length_singleton, pow_succ]
    omega

/-- Digit strings of one length have different values. -/
lemma eq_of_toNat_eq {a b : List Char} (ha : AllDigits a) (hb : AllDigits b)
    (hlength : a.length = b.length) (h : Digits.toNat a = Digits.toNat b) : a = b := by
  induction a generalizing b with
  | nil => exact (List.length_eq_zero_iff.mp hlength.symm).symm
  | cons c a ih =>
    obtain ⟨d, b, rfl⟩ := List.exists_cons_of_length_eq_add_one hlength.symm
    have hlength : a.length = b.length := by simpa using hlength
    have ha' : AllDigits a := fun x hx => ha x (List.mem_cons_of_mem c hx)
    have hb' : AllDigits b := fun x hx => hb x (List.mem_cons_of_mem d hx)
    have hlow := toNat_lt ha'
    have hlow' := toNat_lt hb'
    rw [toNat_cons, toNat_cons, ← hlength] at h
    rw [← hlength] at hlow'
    have hpos : 0 < 10 ^ a.length := by positivity
    have hlead : c.toNat - 48 = d.toNat - 48 := by
      have hdiv := congrArg (· / 10 ^ a.length) h
      simpa [Nat.mul_add_div hpos, mul_comm _ (10 ^ a.length), Nat.div_eq_of_lt hlow,
        Nat.div_eq_of_lt hlow'] using hdiv
    have hrest : Digits.toNat a = Digits.toNat b := by
      rw [hlead] at h
      omega
    have hc := isDigit_iff.mp (ha c (by simp))
    have hd := isDigit_iff.mp (hb d (by simp))
    rw [ih ha' hb' hlength hrest, Char.toNat_inj.mp (by omega : c.toNat = d.toNat)]

/-! ### Writing -/

lemma toNat_digit {n : Nat} (h : n < 10) : (digit n).toNat = 48 + n := by
  revert n
  decide

lemma isDigit_digit {n : Nat} (h : n < 10) : (digit n).isDigit = true := by
  rw [isDigit_iff, toNat_digit h]
  omega

lemma digit_eq_zero_iff {n : Nat} (h : n < 10) : digit n = '0' ↔ n = 0 := by
  revert n
  decide

lemma ofNat_of_lt {n : Nat} (h : n < 10) : ofNat n = [digit n] := by
  rw [ofNat, if_pos h]

lemma ofNat_of_ge {n : Nat} (h : 10 ≤ n) : ofNat n = ofNat (n / 10) ++ [digit (n % 10)] := by
  rw [ofNat, if_neg (by omega)]

lemma count_of_lt {n : Nat} (h : n < 10) : count n = 1 := by
  rw [count, if_pos h]

lemma count_of_ge {n : Nat} (h : 10 ≤ n) : count n = count (n / 10) + 1 := by
  rw [count, if_neg (by omega)]

lemma length_ofNat (n : Nat) : (ofNat n).length = count n := by
  induction n using Nat.strong_induction_on with
  | _ n ih =>
    by_cases h : n < 10
    · rw [ofNat_of_lt h, count_of_lt h]
      rfl
    · rw [ofNat_of_ge (by omega), count_of_ge (by omega), List.length_append, ih (n / 10) (by omega)]
      rfl

lemma count_pos (n : Nat) : 0 < count n := by
  unfold count
  split <;> omega

lemma ofNat_ne_nil (n : Nat) : ofNat n ≠ [] := by
  rw [← List.length_pos_iff, length_ofNat]
  exact count_pos n

lemma allDigits_ofNat (n : Nat) : AllDigits (ofNat n) := by
  induction n using Nat.strong_induction_on with
  | _ n ih =>
    by_cases h : n < 10
    · rw [ofNat_of_lt h]
      intro c hc
      rw [List.mem_singleton.mp hc]
      exact isDigit_digit h
    · rw [ofNat_of_ge (by omega)]
      refine (ih (n / 10) (by omega)).append ?_
      intro c hc
      rw [List.mem_singleton.mp hc]
      exact isDigit_digit (by omega)

@[simp] lemma toNat_ofNat (n : Nat) : Digits.toNat (ofNat n) = n := by
  induction n using Nat.strong_induction_on with
  | _ n ih =>
    by_cases h : n < 10
    · rw [ofNat_of_lt h, toNat_singleton, toNat_digit h]
      omega
    · rw [ofNat_of_ge (by omega), toNat_append, ih (n / 10) (by omega), toNat_singleton,
        toNat_digit (by omega)]
      simp only [List.length_singleton, pow_one]
      omega

lemma head?_ofNat_ne_zero {n : Nat} (h : 0 < n) : (ofNat n).head? ≠ some '0' := by
  induction n using Nat.strong_induction_on with
  | _ n ih =>
    by_cases hn : n < 10
    · rw [ofNat_of_lt hn, List.head?_cons]
      intro hd
      have hz := (digit_eq_zero_iff hn).mp (Option.some.inj hd)
      omega
    · rw [ofNat_of_ge (by omega), List.head?_append_of_ne_nil _ (ofNat_ne_nil _)]
      exact ih (n / 10) (by omega) (by omega)

lemma getLast?_ofNat (n : Nat) : (ofNat n).getLast? = some (digit (n % 10)) := by
  by_cases h : n < 10
  · rw [ofNat_of_lt h, Nat.mod_eq_of_lt h]
    rfl
  · rw [ofNat_of_ge (by omega), List.getLast?_append]
    rfl

lemma lt_pow_count (n : Nat) : n < 10 ^ count n := by
  have h := toNat_lt (allDigits_ofNat n)
  rwa [toNat_ofNat, length_ofNat] at h

lemma pow_count_le {n : Nat} (h : 0 < n) : 10 ^ (count n - 1) ≤ n := by
  induction n using Nat.strong_induction_on with
  | _ n ih =>
    by_cases hn : n < 10
    · rw [count_of_lt hn]
      exact h
    · have hdiv := ih (n / 10) (by omega) (by omega)
      have hc := count_pos (n / 10)
      rw [count_of_ge (by omega), show count (n / 10) + 1 - 1 = count (n / 10) - 1 + 1 by omega, pow_succ]
      omega

lemma count_le_of_lt_pow {n k : Nat} (hk : 0 < k) (h : n < 10 ^ k) : count n ≤ k := by
  by_cases hn : n = 0
  · rw [hn, count_of_lt (by omega)]
    exact hk
  · have hle := (pow_count_le (by omega : 0 < n)).trans_lt h
    have := (Nat.pow_lt_pow_iff_right (by omega : 1 < 10)).mp hle
    omega

/-- A digit string without a leading zero is what its value is written as. -/
lemma ofNat_toNat {cs : List Char} (hne : cs ≠ []) (h : AllDigits cs)
    (hhead : cs = ['0'] ∨ cs.head? ≠ some '0') : ofNat (Digits.toNat cs) = cs := by
  induction cs using List.reverseRecOn with
  | nil => exact absurd rfl hne
  | append_singleton cs c ih =>
    obtain ⟨hcs, hc⟩ := allDigits_append.mp h
    have hc := isDigit_iff.mp (hc c (by simp))
    have hdigit : digit (c.toNat - 48) = c := by
      rw [digit, show 48 + (c.toNat - 48) = c.toNat by omega, Char.ofNat_toNat]
    by_cases hnil : cs = []
    · subst hnil
      rw [List.nil_append, toNat_singleton, ofNat_of_lt (by omega), hdigit]
    · have hlead : cs.head? ≠ some '0' := by
        obtain h0 | h0 := hhead
        · have hlen := congrArg List.length h0
          simp only [List.length_append, List.length_singleton] at hlen
          exact absurd (List.length_eq_zero_iff.mp (by omega)) hnil
        · rwa [List.head?_append_of_ne_nil _ hnil] at h0
      have ih := ih hnil hcs (Or.inr hlead)
      have hpos : 0 < Digits.toNat cs := by
        by_contra hz
        rw [show Digits.toNat cs = 0 by omega, ofNat_of_lt (by omega)] at ih
        rw [← ih] at hlead
        exact hlead rfl
      rw [toNat_append, toNat_singleton, List.length_singleton, pow_one, ofNat_of_ge (by omega),
        show (Digits.toNat cs * 10 + (c.toNat - 48)) / 10 = Digits.toNat cs by omega, ih,
        show (Digits.toNat cs * 10 + (c.toNat - 48)) % 10 = c.toNat - 48 by omega, hdigit]

/-! ### Writing to a width -/

@[simp] lemma toNat_padded (width n : Nat) : Digits.toNat (padded width n) = n := by
  rw [padded, toNat_append, toNat_replicate_zero, toNat_ofNat]
  omega

lemma allDigits_padded (width n : Nat) : AllDigits (padded width n) :=
  (allDigits_replicate_zero _).append (allDigits_ofNat n)

lemma length_padded {width n : Nat} (hw : 0 < width) (h : n < 10 ^ width) :
    (padded width n).length = width := by
  have hc := count_le_of_lt_pow hw h
  rw [padded, List.length_append, List.length_replicate, length_ofNat]
  omega

/-- Digits that fill the width are what their value is written as. -/
lemma padded_toNat {cs : List Char} (hne : cs ≠ []) (h : AllDigits cs) :
    padded cs.length (Digits.toNat cs) = cs :=
  eq_of_toNat_eq (allDigits_padded _ _) h (length_padded (List.length_pos_iff.mpr hne) (toNat_lt h))
    (toNat_padded _ _)

lemma padded_of_le {width n : Nat} (h : width ≤ count n) : padded width n = ofNat n := by
  rw [padded, length_ofNat, Nat.sub_eq_zero_of_le h]
  rfl

end Feel.Proofs
