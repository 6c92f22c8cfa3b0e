import Feel.Calendar.Offset
import Feel.Proofs.DigitStrings
import Feel.Proofs.TextCuts

/-!
# Dates and clocks as text

The text of a date is read back as that date and the text of a time of day as that time. Neither holds
a character at which the literals around them are cut.
-/

namespace Feel.Proofs
open Text

lemma beq_eq_false_of_isDigit {c d : Char} (hc : c.isDigit = true) (hd : d.isDigit = false) :
    (c == d) = false := by
  rw [beq_eq_false_iff_ne]
  rintro rfl
  rw [hc] at hd
  exact Bool.noConfusion hd

lemma ne_of_isDigit_or_mem {x c : Char} {allowed : List Char} (h : x.isDigit = true ∨ x ∈ allowed)
    (hdigit : c.isDigit = false) (hmem : c ∉ allowed) : x ≠ c := by
  rintro rfl
  obtain h | h := h
  · rw [hdigit] at h
    exact Bool.noConfusion h
  · exact hmem h

lemma splitOnce_digits {digits rest : List Char} {c : Char} (h : AllDigits digits)
    (hc : c.isDigit = false) : splitOnce (· == c) (digits ++ c :: rest) = (digits, some rest) :=
  splitOnce_append (fun x hx => beq_eq_false_of_isDigit (h x hx) hc) (beq_self_eq_true c)

lemma isNumber_padded (width n : ℕ) : Digits.isNumber (Digits.padded width n) = true := by
  refine isNumber_iff.mpr ⟨?_, allDigits_padded width n⟩
  exact List.append_ne_nil_of_right_ne_nil _ (ofNat_ne_nil n)

lemma twoDigits?_padded {n : ℕ} (h : n < 100) : Date.twoDigits? (Digits.padded 2 n) = some n := by
  rw [Date.twoDigits?, if_pos ⟨length_padded (by omega) h, isNumber_padded 2 n⟩, toNat_padded]

/-! ### Dates -/

/-- The sign that is written before a year. -/
def yearSign (year : ℤ) : Option Char :=
  if 0 ≤ year ∧ year ≤ 9999 then none else some (if year < 0 then '-' else '+')

lemma yearText_eq (year : ℤ) :
    Date.yearText year = (yearSign year).toList ++ Digits.padded 4 year.natAbs := by
  unfold Date.yearText yearSign
  split_ifs <;> rfl

lemma cutSign_append {year : ℤ} {digits rest : List Char} (h : AllDigits digits) (hne : digits ≠ []) :
    Date.cutSign ((yearSign year).toList ++ (digits ++ rest)) = (yearSign year, digits ++ rest) := by
  unfold yearSign
  split_ifs
  · obtain ⟨c, digits, rfl⟩ := List.exists_cons_of_ne_nil hne
    have hc := h c (by simp)
    rw [Option.toList_none, List.nil_append, List.cons_append, Date.cutSign]
    · rintro rest' heq
      rw [(List.cons.inj heq).1] at hc
      exact absurd hc (by decide)
    · rintro rest' heq
      rw [(List.cons.inj heq).1] at hc
      exact absurd hc (by decide)
  · rfl
  · rfl

lemma readYear?_padded {year : ℤ} (hmin : Date.minYear ≤ year) (hmax : year ≤ Date.maxYear) :
    Date.readYear? (yearSign year) (Digits.padded 4 year.natAbs) = some year := by
  have hbounds : year.natAbs < 10 ^ 6 := by
    unfold Date.minYear at hmin
    unfold Date.maxYear at hmax
    omega
  have hform : (Digits.padded 4 year.natAbs).length = 4 ∧ yearSign year ≠ some '+' ∨
      5 ≤ (Digits.padded 4 year.natAbs).length ∧ (Digits.padded 4 year.natAbs).length ≤ 9 ∧
        (yearSign year).isSome = true ∧ (Digits.padded 4 year.natAbs).head? ≠ some '0' := by
    by_cases hshort : year.natAbs < 10 ^ 4
    · left
      refine ⟨length_padded (by omega) hshort, ?_⟩
      unfold yearSign
      split_ifs
      · simp
      · simp
      · omega
    · right
      have hlong : 4 < Digits.count year.natAbs := by
        by_contra hle
        exact hshort ((lt_pow_count _).trans_le (Nat.pow_le_pow_right (by omega) (not_lt.mp hle)))
      have hcount := count_le_of_lt_pow (by omega) hbounds
      rw [padded_of_le hlong.le, length_ofNat]
      refine ⟨hlong, by omega, ?_, head?_ofNat_ne_zero (by omega)⟩
      rw [yearSign, if_neg (by omega)]
      rfl
  have hminus : yearSign year = some '-' ↔ year < 0 := by
    unfold yearSign
    split_ifs with hshort hneg
    · simp [hshort.1]
    · simp [hneg]
    · simp [hneg]
  have hvalue : (if yearSign year = some '-' then -(year.natAbs : ℤ) else year.natAbs) = year := by
    simp only [hminus]
    omega
  rw [Date.readYear?, if_pos ⟨isNumber_padded 4 _, hform⟩, toNat_padded]
  exact congrArg some hvalue

/-- A text is read as a date if its sign and its year's digits are read as the date's year and its
month and day are those of the date. -/
lemma date_parse?_of_readYear? {cs digits : List Char} {sign : Option Char} {d : Date}
    (hcut : Date.cutSign cs = (sign, digits ++
      '-' :: (Digits.padded 2 d.month ++ '-' :: Digits.padded 2 d.day)))
    (hdigits : AllDigits digits) (hyear : Date.readYear? sign digits = some d.year) :
    Date.parse? cs = some d := by
  obtain ⟨-, ⟨hmonth, hmonth'⟩, hday, hday'⟩ := d.valid
  have hlength : monthLength d.year d.month ≤ 31 := monthLength_le _ _
  rw [Date.parse?, hcut]
  simp only [splitOnce_digits hdigits (by decide : '-'.isDigit = false),
    splitOnce_digits (allDigits_padded _ _) (by decide : '-'.isDigit = false), hyear,
    twoDigits?_padded (by omega : d.month < 100), twoDigits?_padded (by omega : d.day < 100),
    Option.bind_eq_bind, Option.bind_some]
  rw [Date.ofFields?, dif_pos d.valid]

lemma date_text_eq (d : Date) :
    d.text = (yearSign d.year).toList ++ (Digits.padded 4 d.year.natAbs ++
      '-' :: (Digits.padded 2 d.month ++ '-' :: Digits.padded 2 d.day)) := by
  rw [Date.text, yearText_eq]
  simp only [List.append_assoc, List.cons_append]

lemma date_parse?_text (d : Date) : Date.parse? d.text = some d := by
  have hne : Digits.padded 4 d.year.natAbs ≠ [] := (isNumber_iff.mp (isNumber_padded 4 _)).1
  have hcut : Date.cutSign d.text = (yearSign d.year, Digits.padded 4 d.year.natAbs ++
      '-' :: (Digits.padded 2 d.month ++ '-' :: Digits.padded 2 d.day)) := by
    rw [date_text_eq]
    exact cutSign_append (allDigits_padded 4 _) hne
  exact date_parse?_of_readYear? hcut (allDigits_padded 4 _)
    (readYear?_padded d.valid.1.1 d.valid.1.2)

lemma mem_date_text {d : Date} {c : Char} (h : c ∈ d.text) : c.isDigit = true ∨ c = '-' ∨ c = '+' := by
  have hsign : ∀ x ∈ (yearSign d.year).toList, x = '-' ∨ x = '+' := by
    unfold yearSign
    split_ifs <;> simp
  rw [Date.text, yearText_eq] at h
  simp only [List.mem_append, List.mem_cons] at h
  obtain (((h | h) | rfl | h) | rfl | h) := h
  · exact Or.inr (hsign c h)
  · exact Or.inl (allDigits_padded _ _ c h)
  · exact Or.inr (Or.inl rfl)
  · exact Or.inl (allDigits_padded _ _ c h)
  · exact Or.inr (Or.inl rfl)
  · exact Or.inl (allDigits_padded _ _ c h)

/-! ### Times of day -/

/-- The digits of a fraction of a second, if it has any. -/
def fractionDigits (nano : ℕ) : Option (List Char) :=
  if nano = 0 then none
  else if nano % 1000000 = 0 then some (Digits.padded 3 (nano / 1000000))
  else if nano % 1000 = 0 then some (Digits.padded 6 (nano / 1000))
  else some (Digits.padded 9 nano)

lemma fractionText_eq (nano : ℕ) :
    Clock.fractionText nano = match fractionDigits nano with
      | none => []
      | some digits => '.' :: digits := by
  unfold Clock.fractionText fractionDigits
  split_ifs <;> rfl

lemma readFraction?_padded {width n : ℕ} (hpos : 0 < width) (hle : width ≤ 9) (h : n < 10 ^ width) :
    Clock.readFraction? (Digits.padded width n) = some (n * 10 ^ (9 - width)) := by
  have hlength := length_padded hpos h
  rw [Clock.readFraction?, if_pos ⟨isNumber_padded _ _, by omega⟩, toNat_padded, hlength, place_eq]

lemma readFraction?_fractionDigits {nano : ℕ} {digits : List Char} (h : nano < nanosPerSecond)
    (hdigits : fractionDigits nano = some digits) : Clock.readFraction? digits = some nano := by
  unfold nanosPerSecond at h
  unfold fractionDigits at hdigits
  split_ifs at hdigits with hzero hmilli hmicro
  · obtain rfl := Option.some.inj hdigits
    rw [readFraction?_padded (by omega) (by omega) (by omega)]
    congr 1
    omega
  · obtain rfl := Option.some.inj hdigits
    rw [readFraction?_padded (by omega) (by omega) (by omega)]
    congr 1
    omega
  · obtain rfl := Option.some.inj hdigits
    rw [readFraction?_padded (by omega) (by omega) (by omega)]
    congr 1
    omega

lemma allDigits_fractionDigits (nano : ℕ) : ∀ digits ∈ fractionDigits nano, AllDigits digits := by
  unfold fractionDigits
  split_ifs <;> simp [allDigits_padded]

/-- Hours, minutes and seconds as they are written. -/
def wholeText (c : Clock) : List Char :=
  Digits.padded 2 c.hour ++ ':' :: (Digits.padded 2 c.minute ++ ':' :: Digits.padded 2 c.second)

lemma clock_text_eq (c : Clock) : c.text = wholeText c ++ Clock.fractionText c.nano := by
  unfold Clock.text wholeText
  simp only [List.append_assoc, List.cons_append]

lemma mem_wholeText {c : Clock} {x : Char} (h : x ∈ wholeText c) : x.isDigit = true ∨ x = ':' := by
  simp only [wholeText, List.mem_append, List.mem_cons] at h
  obtain h | rfl | h | rfl | h := h
  · exact Or.inl (allDigits_padded _ _ x h)
  · exact Or.inr rfl
  · exact Or.inl (allDigits_padded _ _ x h)
  · exact Or.inr rfl
  · exact Or.inl (allDigits_padded _ _ x h)

lemma mem_clock_text {c : Clock} {x : Char} (h : x ∈ c.text) :
    x.isDigit = true ∨ x = ':' ∨ x = '.' := by
  rw [clock_text_eq, fractionText_eq, List.mem_append] at h
  obtain h | h := h
  · exact (mem_wholeText h).imp_right Or.inl
  · cases hdigits : fractionDigits c.nano with
    | none => simp [hdigits] at h
    | some digits =>
      rw [hdigits] at h
      obtain rfl | h := List.mem_cons.mp h
      · exact Or.inr (Or.inr rfl)
      · exact Or.inl (allDigits_fractionDigits _ _ hdigits x h)

lemma splitOnce_point_clock_text (c : Clock) :
    splitOnce (· == '.') c.text = (wholeText c, fractionDigits c.nano) := by
  have hfree : ∀ x ∈ wholeText c, (x == '.') = false := by
    intro x hx
    obtain hx | rfl := mem_wholeText hx
    · exact beq_eq_false_of_isDigit hx (by decide)
    · rfl
  rw [clock_text_eq, fractionText_eq]
  cases fractionDigits c.nano with
  | none =>
    simp only [List.append_nil]
    exact splitOnce_of_forall hfree
  | some digits => exact splitOnce_append hfree rfl

lemma clock_nanos_eq (c : Clock) :
    (c.hour * 3600 + c.minute * 60 + c.second) * nanosPerSecond + c.nano = c.nanos := by
  have hseconds : c.hour * 3600 + c.minute * 60 + c.second = c.seconds := by
    unfold Clock.hour Clock.minute Clock.second
    omega
  rw [hseconds, Clock.seconds, Clock.nano, mul_comm]
  exact Nat.div_add_mod _ _

lemma clock_fields_lt (c : Clock) :
    c.hour < 24 ∧ c.minute < 60 ∧ c.second < 60 ∧ c.nano < nanosPerSecond := by
  have hlt := c.lt
  unfold nanosPerDay secondsPerDay nanosPerSecond at hlt
  unfold Clock.hour Clock.minute Clock.second Clock.seconds Clock.nano nanosPerSecond
  omega

lemma clock_ofFields?_self (c : Clock) :
    Clock.ofFields? c.hour c.minute c.second c.nano = some c := by
  rw [Clock.ofFields?, if_pos (clock_fields_lt c), clock_nanos_eq, Clock.ofNanos?, dif_pos c.lt]

lemma clock_parse?_text (c : Clock) : Clock.parse? c.text = some c := by
  obtain ⟨hhour, hminute, hsecond, hnano⟩ := clock_fields_lt c
  have hself := clock_ofFields?_self c
  rw [Clock.parse?, splitOnce_point_clock_text]
  simp only [wholeText, splitOnce_digits (allDigits_padded _ _) (by decide : ':'.isDigit = false),
    twoDigits?_padded (by omega : c.hour < 100), twoDigits?_padded (by omega : c.minute < 100),
    Option.bind_eq_bind, Option.bind_some]
  have hread := twoDigits?_padded (by omega : c.second < 100)
  cases hdigits : fractionDigits c.nano with
  | none =>
    have hzero : c.nano = 0 := by
      unfold fractionDigits at hdigits
      split_ifs at hdigits with hzero
      exact hzero
    rw [hzero] at hself
    simp only [hread, Option.bind_some]
    exact hself
  | some digits =>
    simp only [hread, readFraction?_fractionDigits hnano hdigits, Option.bind_some]
    exact hself

end Feel.Proofs
