import Feel.Operation.Arithmetic
import Feel.Operation.Texts
import Feel.Proofs.Numerals
import Feel.Proofs.ValueOrder

/-!
# Plain text of numbers

The text of a number is a canonical numeral. Reading it back gives the number again, as long as the
number has at most 64 significant digits and an exponent within range, so that the text tells the
numbers apart.
-/

namespace Feel.Proofs

/-- Zero, or a number of at most 64 significant digits with an exponent of at most 6144 in either
direction. -/
def IsHeld (n : Decimal) : Prop := n.normalize.digitCount ≤ 64 ∧ InRange (value n)

/-- The numeral has no sign but a minus sign, no exponent and no superfluous zero, and is not `-0`. -/
structure Numeral.IsCanonical (n : Numeral) : Prop where
  exponent_eq_none : n.exponent = none
  sign_ne_plus : n.sign ≠ some .plus
  whole_ne_nil : n.whole ≠ []
  whole_eq_or_head? : n.whole = ['0'] ∨ n.whole.head? ≠ some '0'
  fraction_getLast? : ∀ fraction ∈ n.fraction, fraction ≠ [] ∧ fraction.getLast? ≠ some '0'
  text_ne : n.text ≠ ['-', '0']

/-! ### Positional notation -/

/-- The digits of a magnitude with zeros in front, so that one digit at least stands before the
point. -/
def paddedTo (places k : ℕ) : List Char :=
  List.replicate (places + 1 - (Digits.ofNat k).length) '0' ++ Digits.ofNat k

/-- The digits before the point. -/
def wholePart (places k : ℕ) : List Char :=
  (paddedTo places k).take ((paddedTo places k).length - places)

/-- The digits behind the point. -/
def fractionPart (places k : ℕ) : List Char :=
  (paddedTo places k).drop ((paddedTo places k).length - places)

lemma wholePart_append_fractionPart (places k : ℕ) :
    wholePart places k ++ fractionPart places k = paddedTo places k :=
  List.take_append_drop _ _

lemma allDigits_parts (places k : ℕ) : AllDigits (wholePart places k) ∧ AllDigits (fractionPart places k) := by
  rw [← allDigits_append, wholePart_append_fractionPart]
  exact (allDigits_replicate_zero _).append (allDigits_ofNat k)

lemma places_lt_length_paddedTo (places k : ℕ) : places < (paddedTo places k).length := by
  unfold paddedTo
  rw [List.length_append, List.length_replicate]
  omega

lemma length_fractionPart (places k : ℕ) : (fractionPart places k).length = places := by
  have hlt := places_lt_length_paddedTo places k
  unfold fractionPart
  rw [List.length_drop]
  omega

lemma wholePart_ne_nil (places k : ℕ) : wholePart places k ≠ [] := by
  have hlt := places_lt_length_paddedTo places k
  unfold wholePart
  rw [← List.length_pos_iff, List.length_take]
  omega

lemma fractionPart_ne_nil {places : ℕ} (h : 0 < places) (k : ℕ) : fractionPart places k ≠ [] := by
  rw [← List.length_pos_iff, length_fractionPart]
  exact h

lemma toNat_parts (places k : ℕ) : Digits.toNat (wholePart places k ++ fractionPart places k) = k := by
  rw [wholePart_append_fractionPart]
  unfold paddedTo
  rw [toNat_append, toNat_replicate_zero, toNat_ofNat, zero_mul, zero_add]

lemma getLast?_fractionPart {places k : ℕ} (h : 0 < places) (hk : k % 10 ≠ 0) :
    (fractionPart places k).getLast? ≠ some '0' := by
  rw [← List.getLast?_append_of_ne_nil (wholePart places k) (fractionPart_ne_nil h k),
    wholePart_append_fractionPart]
  unfold paddedTo
  rw [List.getLast?_append_of_ne_nil _ (ofNat_ne_nil k), getLast?_ofNat]
  intro hlast
  exact hk ((digit_eq_zero_iff (Nat.mod_lt k (by omega))).mp (Option.some.inj hlast))

lemma wholePart_eq_or_head? (places : ℕ) {k : ℕ} (hk : 0 < k) :
    wholePart places k = ['0'] ∨ (wholePart places k).head? ≠ some '0' := by
  unfold wholePart paddedTo
  by_cases hlen : (Digits.ofNat k).length ≤ places
  · -- All digits stand behind the point.
    left
    obtain ⟨zeros, hzeros⟩ : ∃ z, places + 1 - (Digits.ofNat k).length = z + 1 :=
      ⟨places - (Digits.ofNat k).length, by omega⟩
    have hwidth : (List.replicate (places + 1 - (Digits.ofNat k).length) '0' ++
        Digits.ofNat k).length - places = 1 := by
      rw [List.length_append, List.length_replicate]
      omega
    rw [hwidth, hzeros, List.replicate_succ, List.cons_append, List.take_succ_cons, List.take_zero]
  · right
    have hzeros : places + 1 - (Digits.ofNat k).length = 0 := by omega
    have hwidth : (Digits.ofNat k).length - places ≠ 0 := by omega
    rw [hzeros, List.replicate_zero, List.nil_append, List.head?_take, if_neg hwidth]
    exact head?_ofNat_ne_zero hk

lemma positional_of_nonpos {digits : List Char} {scale : ℤ} (h : scale ≤ 0) :
    Decimal.positional digits scale = digits ++ List.replicate (-scale).toNat '0' := by
  unfold Decimal.positional
  rw [if_pos h]

lemma positional_of_pos (k : ℕ) {scale : ℤ} (h : 0 < scale) :
    Decimal.positional (Digits.ofNat k) scale =
      wholePart scale.toNat k ++ '.' :: fractionPart scale.toNat k := by
  unfold Decimal.positional
  rw [if_neg (not_le.mpr h)]
  rfl

/-! ### Signs -/

def signOf (n : Decimal) : Option Sign := if n.digits < 0 then some .minus else none

lemma toList_map_signOf (n : Decimal) : ((signOf n).map Sign.char).toList = n.sign := by
  unfold signOf Decimal.sign
  split_ifs <;> rfl

lemma signOf_ne_plus (n : Decimal) : signOf n ≠ some .plus := by
  unfold signOf
  split_ifs <;> simp

lemma signOf_eq_minus_iff (n : Decimal) : signOf n = some .minus ↔ n.digits < 0 := by
  unfold signOf
  split_ifs with hneg <;> simp [hneg]

lemma ofParts_signOf (n : Decimal) {whole fraction : List Char} {k : ℕ}
    (h : Digits.toNat (whole ++ fraction) = n.digits.natAbs * k) :
    Decimal.ofParts (decide (signOf n = some .minus)) whole fraction 0 =
      ⟨n.digits * k, fraction.length⟩ := by
  have hdigits : (if n.digits < 0 then -((n.digits.natAbs * k : ℕ) : ℤ) else (n.digits.natAbs * k : ℕ)) =
      n.digits * k := by
    split_ifs with hneg
    · rw [Nat.cast_mul, Int.ofNat_natAbs_of_nonpos hneg.le, ← neg_mul, neg_neg]
    · rw [Nat.cast_mul, Int.natAbs_of_nonneg (not_lt.mp hneg)]
  unfold Decimal.ofParts
  simp only [h, signOf_eq_minus_iff, decide_eq_true_eq, hdigits, sub_zero]

/-- A numeral is not `-0` if its sign is that of a number of the same value. -/
lemma text_ne_negative_zero {m : Numeral} {n : Decimal} (hexponent : m.exponent = none)
    (hsign : m.sign = signOf n) (hvalue : value (exactDecimal m) = value n) : m.text ≠ ['-', '0'] := by
  intro htext
  have hsplit := splitSign_text m
  rw [htext] at hsplit
  have hminus : n.digits < 0 := by
    have hneg : true = decide (m.sign = some .minus) := congrArg Prod.fst hsplit
    rw [← signOf_eq_minus_iff, ← hsign]
    exact of_decide_eq_true hneg.symm
  have hread : Decimal.ofNumeral? m.text = some (exactDecimal m) :=
    ofNumeral?_text (by simp [hexponent]) (by simp [Numeral.HasSmallExponent, hexponent])
  rw [htext] at hread
  have hzero : exactDecimal m = .zero := (Option.some.inj hread).symm
  rw [hzero, value_zero, eq_comm, value_eq_zero] at hvalue
  omega

/-! ### The numeral of a number -/

/-- The numeral of a whole number, with zeros behind its digits. -/
def wholeNumeral (n : Decimal) : Numeral where
  sign := signOf n
  whole := Digits.ofNat n.digits.natAbs ++ List.replicate (-n.scale).toNat '0'
  fraction := none
  exponent := none
  mantissa_ne_nil := Or.inl (List.append_ne_nil_of_left_ne_nil (ofNat_ne_nil _) _)
  allDigits_whole := (allDigits_ofNat _).append (allDigits_replicate_zero _)
  allDigits_fraction := by simp [AllDigits]

lemma text_wholeNumeral {n : Decimal} (h : n.scale ≤ 0) :
    (wholeNumeral n).text = n.sign ++ Decimal.positional (Digits.ofNat n.digits.natAbs) n.scale := by
  rw [positional_of_nonpos h, ← toList_map_signOf]
  unfold Numeral.text Numeral.body Numeral.mantissa
  simp [wholeNumeral, Numeral.fractionText, Numeral.exponentText]

lemma value_wholeNumeral {n : Decimal} (h : n.scale ≤ 0) :
    value (exactDecimal (wholeNumeral n)) = value n := by
  have hdigits : Digits.toNat ((wholeNumeral n).whole ++ []) =
      n.digits.natAbs * (10 ^ (-n.scale).toNat : ℕ) := by
    unfold wholeNumeral
    rw [List.append_nil, toNat_append, toNat_ofNat, toNat_replicate_zero, List.length_replicate, add_zero]
  have hexact : exactDecimal (wholeNumeral n) = ⟨n.digits * (10 ^ (-n.scale).toNat : ℕ), 0⟩ :=
    ofParts_signOf n hdigits
  have hshift := value_shift n.digits n.scale (-n.scale).toNat
  rw [Int.toNat_of_nonneg (by omega), add_neg_cancel] at hshift
  rw [hexact, Nat.cast_pow]
  exact hshift

lemma isCanonical_wholeNumeral {n : Decimal} (hn : IsNormal n) (h : n.scale ≤ 0) :
    (wholeNumeral n).IsCanonical where
  exponent_eq_none := rfl
  sign_ne_plus := signOf_ne_plus n
  whole_ne_nil := List.append_ne_nil_of_left_ne_nil (ofNat_ne_nil _) _
  whole_eq_or_head? := by
    obtain rfl | hz := hn
    · left
      simp [wholeNumeral, Decimal.zero, ofNat_of_lt, Digits.digit]
    · right
      unfold wholeNumeral
      rw [List.head?_append_of_ne_nil _ (ofNat_ne_nil _)]
      exact head?_ofNat_ne_zero (by omega)
  fraction_getLast? := by simp [wholeNumeral]
  text_ne := text_ne_negative_zero rfl rfl (value_wholeNumeral h)

/-- The numeral of a number with digits behind the point. -/
def pointNumeral (n : Decimal) : Numeral where
  sign := signOf n
  whole := wholePart n.scale.toNat n.digits.natAbs
  fraction := some (fractionPart n.scale.toNat n.digits.natAbs)
  exponent := none
  mantissa_ne_nil := Or.inl (wholePart_ne_nil _ _)
  allDigits_whole := (allDigits_parts _ _).1
  allDigits_fraction := (allDigits_parts _ _).2

lemma text_pointNumeral {n : Decimal} (h : 0 < n.scale) :
    (pointNumeral n).text = n.sign ++ Decimal.positional (Digits.ofNat n.digits.natAbs) n.scale := by
  rw [positional_of_pos _ h, ← toList_map_signOf]
  unfold Numeral.text Numeral.body Numeral.mantissa
  simp [pointNumeral, Numeral.fractionText, Numeral.exponentText]

lemma exactDecimal_pointNumeral {n : Decimal} (h : 0 < n.scale) : exactDecimal (pointNumeral n) = n := by
  have hdigits : Digits.toNat (wholePart n.scale.toNat n.digits.natAbs ++
      fractionPart n.scale.toNat n.digits.natAbs) = n.digits.natAbs * 1 := by
    rw [toNat_parts, mul_one]
  have hexact := ofParts_signOf n hdigits
  rw [length_fractionPart, Int.toNat_of_nonneg h.le, Nat.cast_one, mul_one] at hexact
  exact hexact

lemma isCanonical_pointNumeral {n : Decimal} (hn : n.digits % 10 ≠ 0) (h : 0 < n.scale) :
    (pointNumeral n).IsCanonical where
  exponent_eq_none := rfl
  sign_ne_plus := signOf_ne_plus n
  whole_ne_nil := wholePart_ne_nil _ _
  whole_eq_or_head? := wholePart_eq_or_head? _ (by omega)
  fraction_getLast? := by
    intro fraction hf
    obtain rfl := Option.some.inj hf
    exact ⟨fractionPart_ne_nil (by omega) _, getLast?_fractionPart (by omega) (by omega)⟩
  text_ne := text_ne_negative_zero rfl rfl (by rw [exactDecimal_pointNumeral h])

/-- The text of a number without trailing zeros is a canonical numeral of the same sign and value. -/
lemma exists_numeral_plainHeld {n : Decimal} (h : IsNormal n) :
    ∃ m : Numeral, m.IsCanonical ∧ m.sign = signOf n ∧ m.text = n.plainHeld.toList ∧
      value (exactDecimal m) = value n := by
  unfold Decimal.plainHeld
  rw [String.toList_ofList]
  by_cases hscale : n.scale ≤ 0
  · exact ⟨wholeNumeral n, isCanonical_wholeNumeral h hscale, rfl, text_wholeNumeral hscale,
      value_wholeNumeral hscale⟩
  · have hpos : 0 < n.scale := not_le.mp hscale
    have hn : n.digits % 10 ≠ 0 := by
      refine h.resolve_left ?_
      rintro rfl
      exact hscale (by decide)
    exact ⟨pointNumeral n, isCanonical_pointNumeral hn hpos, rfl, text_pointNumeral hpos,
      by rw [exactDecimal_pointNumeral hpos]⟩

/-! ### Reading back -/

lemma not_isBlank_of_isDigit {c : Char} (h : c.isDigit = true) : Text.isBlank c = false := by
  have hc := isDigit_iff.mp h
  simp only [Text.isBlank, Bool.or_eq_false_iff, Bool.and_eq_false_iff, beq_eq_false_iff_ne,
    decide_eq_false_iff_not]
  omega

lemma mem_dropWhile_of_mem {p : Char → Bool} {cs : List Char} {c : Char} (hc : c ∈ cs)
    (hp : p c = false) : c ∈ cs.dropWhile p := by
  rw [← List.takeWhile_append_dropWhile (p := p) (l := cs), List.mem_append] at hc
  refine hc.resolve_left fun htake => ?_
  rw [List.mem_takeWhile_imp htake] at hp
  exact Bool.noConfusion hp

lemma trim_ne_nil {cs : List Char} {c : Char} (hc : c ∈ cs) (h : Text.isBlank c = false) :
    Text.trim cs ≠ [] := by
  have hmem : c ∈ ((cs.dropWhile Text.isBlank).reverse.dropWhile Text.isBlank).reverse :=
    List.mem_reverse.mpr
      (mem_dropWhile_of_mem (List.mem_reverse.mpr (mem_dropWhile_of_mem hc h)) h)
  exact List.ne_nil_of_mem hmem

lemma trim_eq_self {cs : List Char} (h : ∀ c ∈ cs, Text.isBlank c = false) : Text.trim cs = cs := by
  have hdrop {ds : List Char} (hd : ∀ c ∈ ds, Text.isBlank c = false) :
      ds.dropWhile Text.isBlank = ds := by
    cases ds with
    | nil => rfl
    | cons c ds => rw [List.dropWhile_cons_of_neg (by simp [hd c List.mem_cons_self])]
  rw [Text.trim, hdrop h, hdrop fun c hc => h c (List.mem_reverse.mp hc), List.reverse_reverse]

lemma Numeral.trim_text_ne_nil (n : Numeral) : Text.trim n.text ≠ [] := by
  obtain ⟨c, hc⟩ := List.exists_mem_of_ne_nil n.mantissa (Proofs.mantissa_ne_nil n)
  have htext : c ∈ n.text := List.mem_append_right _ (List.mem_append_left _ hc)
  obtain hd | rfl := isDigit_or_eq_point_of_mem_mantissa n c hc
  · exact trim_ne_nil htext (not_isBlank_of_isDigit hd)
  · exact trim_ne_nil htext (by decide)

lemma toWorking?_eq_normalize {n d : Decimal} (h : IsHeld n) (hd : value d = value n) :
    d.toWorking? = some n.normalize := by
  rw [toWorking?_eq_some_iff, hd, value_normalize]
  refine ⟨?_, h.2, isNormal_normalize n⟩
  have hself := isRounded_self h.1
  rwa [value_normalize] at hself

lemma string_number (n : Decimal) : Operation.string [.number n] = .ok (.string n.plain) := by
  have htext : (Value.number n).text = .ok n.plain := by
    show (Value.number n).display = .ok n.plain
    rw [Value.display]
  exact Operation.string_of_text htext

lemma parse?_text_of_isCanonical {m : Numeral} {n : Decimal} (hm : m.IsCanonical) (h : IsHeld n)
    (hvalue : value (exactDecimal m) = value n) : Decimal.parse? m.text = some n.normalize := by
  rw [Decimal.parse?, ofNumeral?_text (by simp [hm.exponent_eq_none])
    (by simp [Numeral.HasSmallExponent, hm.exponent_eq_none]), Option.bind_some,
    toWorking?_eq_normalize h hvalue]

lemma exists_numeral_plain (n : Decimal) :
    ∃ m : Numeral, m.IsCanonical ∧ m.text = n.plain.toList ∧ value (exactDecimal m) = value n := by
  obtain ⟨m, hm, -, htext, hvalue⟩ := exists_numeral_plainHeld (isNormal_normalize n)
  rw [value_normalize] at hvalue
  exact ⟨m, hm, htext, hvalue⟩

lemma parse?_plain {n : Decimal} (h : IsHeld n) : Decimal.parse? n.plain.toList = some n.normalize := by
  obtain ⟨m, hm, htext, hvalue⟩ := exists_numeral_plain n
  rw [← htext]
  exact parse?_text_of_isCanonical hm h hvalue

/-- The text of a number is canonical, and reading it back gives the number in its normal form. -/
lemma plain_spec {n : Decimal} (h : IsHeld n) :
    ∃ m : Numeral, m.IsCanonical ∧ m.text = n.plain.toList ∧
      Operation.number [.string n.plain] = .ok (.number n.normalize) := by
  obtain ⟨m, hm, htext, -⟩ := exists_numeral_plain n
  refine ⟨m, hm, htext, ?_⟩
  have hblank : Operation.isBlankText n.plain = false := by
    rw [Operation.isBlankText, ← htext, List.isEmpty_eq_false_iff]
    exact m.trim_text_ne_nil
  have hnormal : n.normalize.normalize = n.normalize := normalize_eq_self (isNormal_normalize n)
  simp [Operation.number, Value.isNull, Value.toText, hblank, Operation.numberOf, parse?_plain h,
    Value.ofDecimal, hnormal, Bind.bind, Except.bind]

lemma isHeld_of_exponent {n : Decimal} (hcount : n.normalize.digitCount ≤ 64)
    (hexp : n.exponent.natAbs ≤ Decimal.maxExponent) (hne : n.digits ≠ 0) : IsHeld n :=
  ⟨hcount, (inRange_value_iff hne).mpr hexp⟩

/-- The text of a number that the library holds is canonical and is read back as an equal number.
Such numbers are equal exactly when their texts are. -/
theorem string_number_roundTrip {a b : Decimal} (ha : IsHeld a) (hb : IsHeld b) :
    ∃ s t, Operation.string [.number a] = .ok (.string s) ∧
      Operation.string [.number b] = .ok (.string t) ∧
      (∃ m : Numeral, m.IsCanonical ∧ m.text = s.toList) ∧
      (∃ r, Operation.number [.string s] = .ok (.number r) ∧
        (Value.number r == Value.number a) = true) ∧
      ((Value.number a == Value.number b) = true ↔ s = t) := by
  obtain ⟨m, hm, htext, hreadA⟩ := plain_spec ha
  obtain ⟨-, -, -, hreadB⟩ := plain_spec hb
  refine ⟨a.plain, b.plain, string_number a, string_number b, ⟨m, hm, htext⟩,
    ⟨a.normalize, hreadA, number_beq.mpr (value_normalize a)⟩, ?_⟩
  rw [number_beq, ← normalize_eq_iff]
  constructor
  · intro h
    rw [Decimal.plain, Decimal.plain, h]
  · intro h
    rw [h, hreadB] at hreadA
    exact (Value.number.inj (Except.ok.inj hreadA)).symm

/-- The two forms of 12.5 have one text. -/
theorem string_number_roundTrip_trailingZeros :
    IsHeld ⟨12500, 3⟩ ∧ IsHeld ⟨125, 1⟩ ∧
      ∃ s t, Operation.string [.number ⟨12500, 3⟩] = .ok (.string s) ∧
        Operation.string [.number ⟨125, 1⟩] = .ok (.string t) ∧
        (∃ m : Numeral, m.IsCanonical ∧ m.text = s.toList) ∧
        (∃ r, Operation.number [.string s] = .ok (.number r) ∧
          (Value.number r == Value.number ⟨12500, 3⟩) = true) ∧
        ((Value.number ⟨12500, 3⟩ == Value.number ⟨125, 1⟩) = true ↔ s = t) := by
  have ha : IsHeld ⟨12500, 3⟩ :=
    isHeld_of_exponent (by decide +kernel) (by decide +kernel) (by decide)
  have hb : IsHeld ⟨125, 1⟩ :=
    isHeld_of_exponent (by decide +kernel) (by decide +kernel) (by decide)
  exact ⟨ha, hb, string_number_roundTrip ha hb⟩

end Feel.Proofs
