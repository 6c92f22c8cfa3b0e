import Feel.Decimal.Text
import Feel.Proofs.TextCuts
import Feel.Proofs.WorkingPrecision

/-!
# Numerals

The grammar of numerals, and what the reader makes of a text. The reader accepts the numerals with an
exponent below `2 ^ 32` whose rounded value is in range. It takes one sign before the exponent's
digits, and also the pair of signs `+-`, as if the plus sign were not there.
-/

namespace Feel.Proofs
open Text

/-- A sign before digits. -/
inductive Sign where
  | plus
  | minus
  deriving Repr, DecidableEq

def Sign.char : Sign → Char
  | .plus => '+'
  | .minus => '-'

/-- An exponent as it is written, with any signs before its digits. -/
structure Exponent where
  marker : Char
  signs : List Sign
  digits : List Char
  marker_eq : marker = 'e' ∨ marker = 'E'
  digits_ne_nil : digits ≠ []
  allDigits : AllDigits digits

/-- A numeral as it is written: an optional sign, digits with an optional point among them or at
either end, and an optional exponent. -/
structure Numeral where
  sign : Option Sign
  whole : List Char
  fraction : Option (List Char)
  exponent : Option Exponent
  mantissa_ne_nil : whole ≠ [] ∨ fraction.getD [] ≠ []
  allDigits_whole : AllDigits whole
  allDigits_fraction : AllDigits (fraction.getD [])

namespace Exponent

/-- What follows the marker. -/
def tail (e : Exponent) : List Char := e.signs.map Sign.char ++ e.digits

def value (e : Exponent) : ℤ :=
  if .minus ∈ e.signs then -(Digits.toNat e.digits : ℤ) else Digits.toNat e.digits

end Exponent

namespace Numeral

def fractionText : Option (List Char) → List Char
  | none => []
  | some fraction => '.' :: fraction

def exponentText : Option Exponent → List Char
  | none => []
  | some e => e.marker :: e.tail

def mantissa (n : Numeral) : List Char := n.whole ++ fractionText n.fraction

/-- What follows the sign. -/
def body (n : Numeral) : List Char := n.mantissa ++ exponentText n.exponent

def text (n : Numeral) : List Char := (n.sign.map Sign.char).toList ++ n.body

def exponentValue (n : Numeral) : ℤ := (n.exponent.map Exponent.value).getD 0

/-- The number that the digits denote by their places. -/
def magnitude (n : Numeral) : ℚ :=
  (Digits.toNat n.whole + Digits.toNat (n.fraction.getD []) / 10 ^ (n.fraction.getD []).length) *
    10 ^ n.exponentValue

def denoted (n : Numeral) : ℚ := if n.sign = some .minus then -n.magnitude else n.magnitude

/-- At most one sign stands before the exponent's digits. -/
def HasOneSign (n : Numeral) : Prop := ∀ e ∈ n.exponent, e.signs.length ≤ 1

/-- A plus sign and a minus sign stand before the exponent's digits. -/
def HasSignPair (n : Numeral) : Prop := ∃ e ∈ n.exponent, e.signs = [.plus, .minus]

def HasSmallExponent (n : Numeral) : Prop := ∀ e ∈ n.exponent, Digits.toNat e.digits < 2 ^ 32

/-- The decimal is the numeral's value, rounded to 64 significant digits and within range. -/
def RoundsTo (n : Numeral) (r : Decimal) : Prop :=
  n.HasSmallExponent ∧ IsRounded 64 n.denoted (value r) ∧ InRange (value r) ∧ IsNormal r

end Numeral

/-! ### Characters -/

/-- What marks the exponent of a numeral. -/
private abbrev isMarker (c : Char) : Bool := c == 'e' || c == 'E'

lemma isMarker_eq_false_of_isDigit {c : Char} (h : c.isDigit = true) : isMarker c = false := by
  rw [isMarker, Bool.or_eq_false_iff, beq_eq_false_iff_ne, beq_eq_false_iff_ne]
  constructor <;> rintro rfl <;> exact absurd h (by decide)

lemma beq_point_eq_false_of_isDigit {c : Char} (h : c.isDigit = true) : (c == '.') = false := by
  rw [beq_eq_false_iff_ne]
  rintro rfl
  exact absurd h (by decide)

lemma Sign.not_isDigit_char (s : Sign) : s.char.isDigit = false := by
  cases s <;> rfl

/-! ### Signs -/

lemma head?_ne_of_allDigits {cs : List Char} (h : AllDigits cs) (s : Sign) :
    cs.head? ≠ some s.char := by
  intro hs
  have hd := h _ (List.mem_of_mem_head? hs)
  rw [s.not_isDigit_char] at hd
  exact Bool.false_ne_true hd

lemma dropPlus_eq_self {cs : List Char} (h : cs.head? ≠ some '+') : Decimal.dropPlus cs = cs := by
  rw [Decimal.dropPlus]
  rintro rest rfl
  exact h rfl

lemma splitMinus_eq_self {cs : List Char} (h : cs.head? ≠ some '-') :
    Decimal.splitMinus cs = (false, cs) := by
  rw [Decimal.splitMinus]
  rintro rest rfl
  exact h rfl

lemma splitSign_eq_self {cs : List Char} (h : ∀ s : Sign, cs.head? ≠ some s.char) :
    Decimal.splitSign cs = (false, cs) := by
  rw [Decimal.splitSign]
  · rintro rest rfl
    exact h .minus rfl
  · rintro rest rfl
    exact h .plus rfl

/-- The signs that the reader takes before the exponent's digits. -/
def IsTaken (signs : List Sign) : Prop := signs.length ≤ 1 ∨ signs = [.plus, .minus]

lemma isTaken_iff {signs : List Sign} :
    IsTaken signs ↔ signs = [] ∨ signs = [.plus] ∨ signs = [.minus] ∨ signs = [.plus, .minus] := by
  constructor
  · rintro (h | h)
    · match signs, h with
      | [], _ => exact Or.inl rfl
      | [.plus], _ => exact Or.inr (Or.inl rfl)
      | [.minus], _ => exact Or.inr (Or.inr (Or.inl rfl))
    · exact Or.inr (Or.inr (Or.inr h))
  · rintro (rfl | rfl | rfl | rfl)
    · exact Or.inl (by simp)
    · exact Or.inl (by simp)
    · exact Or.inl (by simp)
    · exact Or.inr rfl

lemma splitMinus_dropPlus {signs : List Sign} {digits : List Char} (h : IsTaken signs)
    (hd : AllDigits digits) :
    Decimal.splitMinus (Decimal.dropPlus (signs.map Sign.char ++ digits)) =
      (decide (.minus ∈ signs), digits) := by
  have hplus := dropPlus_eq_self (head?_ne_of_allDigits hd .plus)
  have hminus := splitMinus_eq_self (head?_ne_of_allDigits hd .minus)
  obtain rfl | rfl | rfl | rfl := isTaken_iff.mp h
  · rw [List.map_nil, List.nil_append, hplus, hminus]
    rfl
  · exact hminus
  · rfl
  · rfl

lemma exists_signs_of_splitMinus_dropPlus (cs : List Char) :
    ∃ signs, IsTaken signs ∧
      cs = signs.map Sign.char ++ (Decimal.splitMinus (Decimal.dropPlus cs)).2 := by
  by_cases hp : cs.head? = some '+'
  · obtain ⟨rest, rfl⟩ : ∃ rest, cs = '+' :: rest := ⟨cs.tail, List.eq_cons_of_mem_head? hp⟩
    by_cases hm : rest.head? = some '-'
    · obtain ⟨rest, rfl⟩ : ∃ more, rest = '-' :: more := ⟨rest.tail, List.eq_cons_of_mem_head? hm⟩
      exact ⟨[.plus, .minus], Or.inr rfl, rfl⟩
    · refine ⟨[.plus], Or.inl (by simp), ?_⟩
      rw [Decimal.dropPlus, splitMinus_eq_self hm]
      rfl
  · by_cases hm : cs.head? = some '-'
    · obtain ⟨rest, rfl⟩ : ∃ rest, cs = '-' :: rest := ⟨cs.tail, List.eq_cons_of_mem_head? hm⟩
      exact ⟨[.minus], Or.inl (by simp), rfl⟩
    · refine ⟨[], Or.inl (by simp), ?_⟩
      rw [dropPlus_eq_self hp, splitMinus_eq_self hm]
      rfl

/-! ### Exponents -/

lemma count32_eq : Word.count32 = 2 ^ 32 := by decide

lemma readExponent?_tail {e : Exponent} (h : IsTaken e.signs) (hsmall : Digits.toNat e.digits < 2 ^ 32) :
    Decimal.readExponent? e.tail = some e.value := by
  have hnumber : Digits.isNumber e.digits = true := isNumber_iff.mpr ⟨e.digits_ne_nil, e.allDigits⟩
  have hcond : (Digits.isNumber e.digits && decide (Digits.toNat e.digits < 2 ^ 32)) = true := by
    rw [hnumber, decide_eq_true hsmall]
    rfl
  rw [Decimal.readExponent?, Exponent.tail, splitMinus_dropPlus h e.allDigits, count32_eq]
  simp only [hcond, if_true, Exponent.value, decide_eq_true_eq]

lemma exists_exponent_of_readExponent? {cs : List Char} {k : ℤ} {marker : Char}
    (hmarker : isMarker marker = true) (h : Decimal.readExponent? cs = some k) :
    ∃ e : Exponent, e.marker = marker ∧ e.tail = cs ∧ IsTaken e.signs ∧
      Digits.toNat e.digits < 2 ^ 32 ∧ e.value = k := by
  obtain ⟨signs, htaken, hcs⟩ := exists_signs_of_splitMinus_dropPlus cs
  have hcond : (Digits.isNumber (Decimal.splitMinus (Decimal.dropPlus cs)).2 &&
      decide (Digits.toNat (Decimal.splitMinus (Decimal.dropPlus cs)).2 < 2 ^ 32)) = true := by
    by_contra hcond
    unfold Decimal.readExponent? at h
    rw [← count32_eq] at hcond
    dsimp only at h
    rw [if_neg hcond] at h
    exact Option.some_ne_none _ h.symm
  rw [Bool.and_eq_true, isNumber_iff, decide_eq_true_eq] at hcond
  obtain ⟨⟨hne, hdigits⟩, hsmall⟩ := hcond
  let e : Exponent :=
    { marker, signs, digits := (Decimal.splitMinus (Decimal.dropPlus cs)).2,
      marker_eq := by simpa [isMarker] using hmarker,
      digits_ne_nil := hne, allDigits := hdigits }
  have htail : e.tail = cs := hcs.symm
  have hread := readExponent?_tail (e := e) htaken hsmall
  rw [htail, h] at hread
  exact ⟨e, rfl, htail, htaken, hsmall, (Option.some.inj hread).symm⟩

/-! ### The reader -/

lemma isTaken_iff_numeral (n : Numeral) :
    (∀ e ∈ n.exponent, IsTaken e.signs) ↔ n.HasOneSign ∨ n.HasSignPair := by
  unfold Numeral.HasOneSign Numeral.HasSignPair
  cases n.exponent with
  | none => simp
  | some e => simp [IsTaken]

lemma isDigit_or_eq_point_of_mem_mantissa (n : Numeral) :
    ∀ c ∈ n.mantissa, c.isDigit = true ∨ c = '.' := by
  intro c hc
  rw [Numeral.mantissa, List.mem_append] at hc
  obtain hc | hc := hc
  · exact Or.inl (n.allDigits_whole c hc)
  · have hfraction := n.allDigits_fraction
    cases hf : n.fraction with
    | none =>
      rw [hf] at hc
      exact absurd hc List.not_mem_nil
    | some fraction =>
      rw [hf] at hc hfraction
      obtain rfl | hc := List.mem_cons.mp hc
      · exact Or.inr rfl
      · exact Or.inl (hfraction c hc)

lemma mantissa_ne_nil (n : Numeral) : n.mantissa ≠ [] := by
  intro h
  rw [Numeral.mantissa, List.append_eq_nil_iff] at h
  have hne := n.mantissa_ne_nil.resolve_left (not_not_intro h.1)
  cases hf : n.fraction with
  | none =>
    rw [hf] at hne
    exact hne rfl
  | some fraction =>
    rw [hf] at h
    exact absurd h.2 (List.cons_ne_nil _ _)

lemma splitOnce_body (n : Numeral) :
    splitOnce isMarker n.body = (n.mantissa, n.exponent.map Exponent.tail) := by
  have hfree : ∀ c ∈ n.mantissa, isMarker c = false := by
    intro c hc
    obtain hc | rfl := isDigit_or_eq_point_of_mem_mantissa n c hc
    · exact isMarker_eq_false_of_isDigit hc
    · rfl
  unfold Numeral.body
  cases n.exponent with
  | none =>
    rw [Numeral.exponentText, List.append_nil]
    exact splitOnce_of_forall hfree
  | some e => exact splitOnce_append hfree (by simpa [isMarker] using e.marker_eq)

lemma splitOnce_mantissa (n : Numeral) :
    splitOnce (· == '.') n.mantissa = (n.whole, n.fraction) := by
  have hfree : ∀ c ∈ n.whole, (c == '.') = false := fun c hc =>
    beq_point_eq_false_of_isDigit (n.allDigits_whole c hc)
  unfold Numeral.mantissa
  cases n.fraction with
  | none =>
    rw [Numeral.fractionText, List.append_nil]
    exact splitOnce_of_forall hfree
  | some fraction => exact splitOnce_append hfree rfl

lemma head?_body_ne (n : Numeral) (s : Sign) : n.body.head? ≠ some s.char := by
  intro hs
  rw [Numeral.body, List.head?_append_of_ne_nil _ (mantissa_ne_nil n)] at hs
  obtain hd | hd := isDigit_or_eq_point_of_mem_mantissa n _ (List.mem_of_mem_head? hs)
  · rw [s.not_isDigit_char] at hd
    exact Bool.false_ne_true hd
  · cases s <;> exact absurd hd (by decide)

lemma splitSign_text (n : Numeral) :
    Decimal.splitSign n.text = (decide (n.sign = some .minus), n.body) := by
  unfold Numeral.text
  match n.sign with
  | none => exact splitSign_eq_self (head?_body_ne n)
  | some .plus => rfl
  | some .minus => rfl

def exactDecimal (n : Numeral) : Decimal :=
  .ofParts (decide (n.sign = some .minus)) n.whole (n.fraction.getD []) n.exponentValue

lemma ofNumeral?_text {n : Numeral} (h : ∀ e ∈ n.exponent, IsTaken e.signs)
    (hsmall : n.HasSmallExponent) : Decimal.ofNumeral? n.text = some (exactDecimal n) := by
  have hcond : ((n.whole.isEmpty && (n.fraction.getD []).isEmpty) || !n.whole.all Char.isDigit ||
      !(n.fraction.getD []).all Char.isDigit) = false := by
    have hwhole := all_isDigit.mpr n.allDigits_whole
    have hfraction := all_isDigit.mpr n.allDigits_fraction
    have hne := n.mantissa_ne_nil
    simp only [hwhole, hfraction, Bool.not_true, Bool.or_false, Bool.and_eq_false_iff,
      List.isEmpty_eq_false_iff]
    exact hne
  rw [Decimal.ofNumeral?, splitSign_text]
  simp only [splitOnce_body, splitOnce_mantissa, hcond, Bool.false_eq_true, if_false]
  unfold exactDecimal Numeral.exponentValue
  cases he : n.exponent with
  | none => rfl
  | some e => simp [readExponent?_tail (h e (by simp [he])) (hsmall e (by simp [he]))]

lemma exists_sign_of_splitSign (cs : List Char) :
    ∃ sign : Option Sign, cs = (sign.map Sign.char).toList ++ (Decimal.splitSign cs).2 := by
  by_cases hs : ∃ s : Sign, cs.head? = some s.char
  · obtain ⟨s, hs⟩ := hs
    refine ⟨some s, ?_⟩
    rw [List.eq_cons_of_mem_head? hs]
    cases s <;> rfl
  · refine ⟨none, ?_⟩
    rw [splitSign_eq_self fun s h => hs ⟨s, h⟩]
    rfl

lemma exists_exponent_of_splitOnce {body mantissa : List Char} {rest : Option (List Char)}
    (hbody : splitOnce isMarker body = (mantissa, rest))
    (hrest : ∀ tail ∈ rest, ∃ k, Decimal.readExponent? tail = some k) :
    ∃ exponent : Option Exponent,
      (∀ e ∈ exponent, IsTaken e.signs ∧ Digits.toNat e.digits < 2 ^ 32) ∧
      body = mantissa ++ Numeral.exponentText exponent := by
  cases rest with
  | none =>
    refine ⟨none, by simp, ?_⟩
    rw [eq_of_splitOnce_none hbody, Numeral.exponentText, List.append_nil]
  | some tail =>
    obtain ⟨c, hc, hcs⟩ := eq_append_of_splitOnce hbody
    obtain ⟨k, hk⟩ := hrest tail rfl
    obtain ⟨e, rfl, rfl, htaken, hsmall, -⟩ := exists_exponent_of_readExponent? hc hk
    refine ⟨some e, ?_, hcs⟩
    intro e' he'
    obtain rfl := Option.some.inj he'
    exact ⟨htaken, hsmall⟩

lemma eq_mantissa_of_splitOnce {mantissa whole : List Char} {fraction : Option (List Char)}
    (h : splitOnce (· == '.') mantissa = (whole, fraction)) :
    mantissa = whole ++ Numeral.fractionText fraction := by
  cases fraction with
  | none => rw [eq_of_splitOnce_none h, Numeral.fractionText, List.append_nil]
  | some fraction =>
    obtain ⟨c, hc, hcs⟩ := eq_append_of_splitOnce h
    rw [hcs, eq_of_beq hc, Numeral.fractionText]

lemma exists_numeral_of_ofNumeral? {cs : List Char} {d : Decimal} (h : Decimal.ofNumeral? cs = some d) :
    ∃ n : Numeral, n.text = cs ∧ (∀ e ∈ n.exponent, IsTaken e.signs) ∧ n.HasSmallExponent := by
  obtain ⟨sign, hsign⟩ := exists_sign_of_splitSign cs
  unfold Decimal.ofNumeral? at h
  dsimp only at h
  split_ifs at h with hcond
  rw [Bool.not_eq_true, Bool.or_eq_false_iff, Bool.or_eq_false_iff, Bool.and_eq_false_iff,
    Bool.not_eq_false', Bool.not_eq_false', all_isDigit, all_isDigit, List.isEmpty_eq_false_iff,
    List.isEmpty_eq_false_iff] at hcond
  obtain ⟨⟨hne, hwhole⟩, hfraction⟩ := hcond
  generalize hbody : splitOnce (fun c => c == 'e' || c == 'E') (Decimal.splitSign cs).2 = parts at *
  obtain ⟨mantissa, rest⟩ := parts
  generalize hmantissa : splitOnce (· == '.') mantissa = places at *
  obtain ⟨whole, fraction⟩ := places
  obtain ⟨exponent, htaken, hexponent⟩ := exists_exponent_of_splitOnce hbody (by
    rintro tail rfl
    obtain ⟨k, hk, -⟩ := Option.map_eq_some_iff.mp h
    exact ⟨k, hk⟩)
  let n : Numeral :=
    { sign, whole, fraction, exponent, mantissa_ne_nil := hne, allDigits_whole := hwhole,
      allDigits_fraction := hfraction }
  have hpoint : n.mantissa = mantissa := (eq_mantissa_of_splitOnce hmantissa).symm
  refine ⟨n, ?_, fun e he => (htaken e he).1, fun e he => (htaken e he).2⟩
  rw [Numeral.text, Numeral.body, hpoint]
  exact hsign.trans (congrArg _ hexponent) |>.symm

lemma value_exactDecimal (n : Numeral) : value (exactDecimal n) = n.denoted := by
  have hmagnitude : n.magnitude =
      Digits.toNat (n.whole ++ n.fraction.getD []) *
        (10 : ℚ) ^ (-((n.fraction.getD []).length - n.exponentValue)) := by
    rw [Numeral.magnitude, toNat_append, neg_sub, sub_eq_add_neg, ten_zpow_add, zpow_neg, zpow_natCast]
    push_cast
    field_simp
  rw [Numeral.denoted, hmagnitude, exactDecimal, Decimal.ofParts, value]
  by_cases hs : n.sign = some .minus <;> simp [hs]

lemma toWorking?_exactDecimal_eq_some_iff {n : Numeral} (h : n.HasSmallExponent) (r : Decimal) :
    (exactDecimal n).toWorking? = some r ↔ n.RoundsTo r := by
  rw [toWorking?_eq_some_iff, value_exactDecimal, Numeral.RoundsTo, and_iff_right h]

lemma parse?_eq_some_iff_numeral (cs : List Char) (r : Decimal) :
    Decimal.parse? cs = some r ↔
      ∃ n : Numeral, n.text = cs ∧ (n.HasOneSign ∨ n.HasSignPair) ∧ n.RoundsTo r := by
  rw [Decimal.parse?, Option.bind_eq_some_iff]
  constructor
  · rintro ⟨d, hd, hr⟩
    obtain ⟨n, rfl, htaken, hsmall⟩ := exists_numeral_of_ofNumeral? hd
    rw [ofNumeral?_text htaken hsmall] at hd
    obtain rfl := Option.some.inj hd
    exact ⟨n, rfl, (isTaken_iff_numeral n).mp htaken,
      (toWorking?_exactDecimal_eq_some_iff hsmall r).mp hr⟩
  · rintro ⟨n, rfl, hsigns, hround⟩
    exact ⟨exactDecimal n, ofNumeral?_text ((isTaken_iff_numeral n).mpr hsigns) hround.1,
      (toWorking?_exactDecimal_eq_some_iff hround.1 r).mpr hround⟩

/-! ### One sign or two -/

lemma exponent_tail_eq_of_text_eq {n m : Numeral} (h : n.text = m.text) :
    n.exponent.map Exponent.tail = m.exponent.map Exponent.tail := by
  have hsplit : n.body = m.body := by
    have hpair := congrArg Decimal.splitSign h
    rw [splitSign_text, splitSign_text] at hpair
    exact congrArg Prod.snd hpair
  have hparts := congrArg (splitOnce isMarker) hsplit
  rw [splitOnce_body, splitOnce_body] at hparts
  exact congrArg Prod.snd hparts

/-- No text is a numeral with one sign at most in its exponent and also one with two. -/
lemma Numeral.HasSignPair.not_hasOneSign {n m : Numeral} (hn : n.HasSignPair)
    (h : n.text = m.text) : ¬ m.HasOneSign := by
  intro hm
  obtain ⟨e, he, hsigns⟩ := hn
  have htail := exponent_tail_eq_of_text_eq h
  rw [Option.mem_def.mp he, Option.map_some] at htail
  obtain ⟨f, hf, htail⟩ := Option.map_eq_some_iff.mp htail.symm
  rw [Exponent.tail, Exponent.tail, hsigns] at htail
  have hdigits := f.allDigits
  -- Digits of the one exponent would be signs of the other.
  match hfs : f.signs, hm f hf with
  | [], _ =>
    rw [hfs, List.map_nil, List.nil_append] at htail
    exact head?_ne_of_allDigits hdigits .plus (by rw [htail]; rfl)
  | [s], _ =>
    rw [hfs] at htail
    have hrest : f.digits = '-' :: e.digits := (List.cons.inj htail).2
    exact head?_ne_of_allDigits hdigits .minus (by rw [hrest]; rfl)

/-- The reader returns exactly the rounded values of texts in the grammar of numerals, up to one
slip. It also takes the signs `+-` before the exponent's digits, and a text is read otherwise than
the grammar asks for exactly if it has that pair and is a numeral in range without the plus sign. -/
theorem parse?_eq_some_iff (cs : List Char) :
    (∀ r, Decimal.parse? cs = some r ↔
      ∃ n : Numeral, n.text = cs ∧ (n.HasOneSign ∨ n.HasSignPair) ∧ n.RoundsTo r) ∧
    ((∀ r, Decimal.parse? cs = some r ↔
        ∃ n : Numeral, n.text = cs ∧ n.HasOneSign ∧ n.RoundsTo r) ↔
      ¬ ∃ (n : Numeral) (r : Decimal), n.text = cs ∧ n.HasSignPair ∧ n.RoundsTo r) := by
  refine ⟨parse?_eq_some_iff_numeral cs, ?_, ?_⟩
  · rintro h ⟨n, r, rfl, hpair, hround⟩
    obtain ⟨m, hm, hone, -⟩ :=
      (h r).mp ((parse?_eq_some_iff_numeral _ r).mpr ⟨n, rfl, Or.inr hpair, hround⟩)
    exact hpair.not_hasOneSign hm.symm hone
  · intro h r
    rw [parse?_eq_some_iff_numeral]
    constructor
    · rintro ⟨n, hn, hone | hpair, hround⟩
      · exact ⟨n, hn, hone, hround⟩
      · exact absurd ⟨n, r, hn, hpair, hround⟩ h
    · rintro ⟨n, hn, hone, hround⟩
      exact ⟨n, hn, Or.inl hone, hround⟩

/-- The text `1e+-5` is read as a number and is no numeral. -/
theorem parse?_signPair :
    Decimal.parse? ['1', 'e', '+', '-', '5'] = some ⟨1, 5⟩ ∧
      ¬ ∃ n : Numeral, n.text = ['1', 'e', '+', '-', '5'] ∧ n.HasOneSign := by
  refine ⟨by decide +kernel, ?_⟩
  rintro ⟨n, hn, hone⟩
  let e : Exponent :=
    { marker := 'e', signs := [.plus, .minus], digits := ['5'], marker_eq := Or.inl rfl,
      digits_ne_nil := by decide, allDigits := by simp [AllDigits] }
  let m : Numeral :=
    { sign := none, whole := ['1'], fraction := none, exponent := some e,
      mantissa_ne_nil := by decide, allDigits_whole := by simp [AllDigits],
      allDigits_fraction := by simp [AllDigits] }
  have hpair : m.HasSignPair := ⟨e, rfl, rfl⟩
  exact hpair.not_hasOneSign (m := n) hn.symm hone

end Feel.Proofs
