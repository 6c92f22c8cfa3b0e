import Feel.Value
import Feel.Proofs.CalendarTexts

/-!
# Date literals

A text is read as a date exactly if it is the text of that date. Only year zero has a second spelling,
with a minus sign before it. So the reader takes what the writer gives and hardly anything else.
-/

namespace Feel.Proofs
open Text

lemma date_text (d : Date) : (Value.date d).text = .ok (String.ofList d.text) := by
  show (Value.date d).display = .ok (String.ofList d.text)
  rw [Value.display]

lemma eq_padded_of_twoDigits? {cs : List Char} {n : ℕ} (h : Date.twoDigits? cs = some n) :
    cs = Digits.padded 2 n := by
  unfold Date.twoDigits? at h
  split_ifs at h with hform
  obtain ⟨hlength, hnumber⟩ := hform
  obtain ⟨hne, hdigits⟩ := isNumber_iff.mp hnumber
  rw [← Option.some.inj h, ← hlength, padded_toNat hne hdigits]

/-- The sign that is cut off is a minus, a plus or none, and stands in front. -/
lemma cutSign_eq {cs body : List Char} {sign : Option Char} (h : Date.cutSign cs = (sign, body)) :
    cs = sign.toList ++ body ∧ (sign = none ∨ sign = some '-' ∨ sign = some '+') := by
  unfold Date.cutSign at h
  split at h <;> obtain ⟨rfl, rfl⟩ := Prod.mk.inj h <;> simp

/-! ### Years -/

/-- Four digits after an optional minus are the text of a year, or of year zero with a minus. -/
lemma append_eq_yearText_of_short {sign : Option Char} {digits : List Char}
    (hdigits : AllDigits digits) (hlength : digits.length = 4) (hsign : sign = none ∨ sign = some '-') :
    let year : ℤ := if sign = some '-' then -(Digits.toNat digits : ℤ) else Digits.toNat digits
    sign.toList ++ digits = Date.yearText year ∨
      year = 0 ∧ sign.toList ++ digits = '-' :: Date.yearText year := by
  have hne : digits ≠ [] := List.length_pos_iff.mp (by omega)
  have hself : Digits.padded 4 (Digits.toNat digits) = digits := by
    rw [← hlength]
    exact padded_toNat hne hdigits
  have hlt : Digits.toNat digits < 10 ^ 4 := by
    rw [← hlength]
    exact toNat_lt hdigits
  obtain rfl | rfl := hsign
  · left
    simp only [reduceCtorEq, if_false, Date.yearText, Int.natAbs_natCast, hself]
    rw [if_pos (by omega)]
    rfl
  · by_cases hzero : Digits.toNat digits = 0
    · right
      rw [hzero] at hself ⊢
      simp [Date.yearText, hself]
    · left
      simp only [if_true, Date.yearText, Int.natAbs_neg, Int.natAbs_natCast, hself]
      rw [if_neg (by omega), if_pos (by omega)]
      rfl

/-- More than four digits after a sign, the first one not zero, are the text of a year. -/
lemma append_eq_yearText_of_long {sign : Option Char} {digits : List Char}
    (hdigits : AllDigits digits) (hlength : 5 ≤ digits.length) (hhead : digits.head? ≠ some '0')
    (hsign : sign = some '-' ∨ sign = some '+') :
    sign.toList ++ digits =
      Date.yearText (if sign = some '-' then -(Digits.toNat digits : ℤ) else Digits.toNat digits) := by
  have hself : Digits.ofNat (Digits.toNat digits) = digits :=
    ofNat_toNat (List.length_pos_iff.mp (by omega)) hdigits (Or.inr hhead)
  have hcount : 5 ≤ Digits.count (Digits.toNat digits) := by
    rw [← length_ofNat, hself]
    exact hlength
  have hge : 10 ^ 4 ≤ Digits.toNat digits := by
    by_contra hlt
    have hle := count_le_of_lt_pow (by omega) (not_le.mp hlt)
    omega
  have hpadded : Digits.padded 4 (Digits.toNat digits) = digits := by
    rw [padded_of_le (by omega), hself]
  obtain rfl | rfl := hsign
  · simp only [if_true, Date.yearText, Int.natAbs_neg, Int.natAbs_natCast, hpadded]
    rw [if_neg (by omega), if_pos (by omega)]
    rfl
  · simp only [Option.some.injEq, Char.reduceEq, if_false, Date.yearText, Int.natAbs_natCast, hpadded]
    rw [if_neg (by omega), if_neg (by omega)]
    rfl

lemma append_eq_of_readYear? {sign : Option Char} {digits : List Char} {year : ℤ}
    (hsign : sign = none ∨ sign = some '-' ∨ sign = some '+')
    (h : Date.readYear? sign digits = some year) :
    sign.toList ++ digits = Date.yearText year ∨
      year = 0 ∧ sign.toList ++ digits = '-' :: Date.yearText year := by
  obtain ⟨⟨hnumber, hshape⟩, hvalue⟩ := Option.ite_none_right_eq_some.mp h
  have hdigits := (isNumber_iff.mp hnumber).2
  obtain rfl := Option.some.inj hvalue
  obtain ⟨hlength, hplus⟩ | ⟨hlength, -, hsome, hhead⟩ := hshape
  · refine append_eq_yearText_of_short hdigits hlength ?_
    obtain rfl | rfl | rfl := hsign
    · exact Or.inl rfl
    · exact Or.inr rfl
    · exact absurd rfl hplus
  · left
    refine append_eq_yearText_of_long hdigits hlength hhead (hsign.resolve_left ?_)
    rintro rfl
    exact Bool.noConfusion hsome

/-! ### Dates -/

lemma eq_text_of_date_parse? {cs : List Char} {d : Date} (h : Date.parse? cs = some d) :
    cs = d.text ∨ d.year = 0 ∧ cs = '-' :: d.text := by
  obtain ⟨⟨sign, body⟩, hcut⟩ : ∃ p, p = Date.cutSign cs := ⟨_, rfl⟩
  obtain ⟨⟨year, rest⟩, hyears⟩ : ∃ p, p = splitOnce (· == '-') body := ⟨_, rfl⟩
  rw [Date.parse?, ← hcut] at h
  simp only [← hyears, Option.bind_eq_bind, Option.bind_eq_some_iff] at h
  obtain ⟨rest, rfl, h⟩ := h
  obtain ⟨⟨month, after⟩, hmonths⟩ : ∃ p, p = splitOnce (· == '-') rest := ⟨_, rfl⟩
  simp only [← hmonths] at h
  obtain ⟨y, hyear, m, hmonth, day, rfl, n, hday, hfields⟩ := h
  obtain ⟨rfl, hsign⟩ := cutSign_eq hcut.symm
  obtain ⟨c, hc, rfl⟩ := eq_append_of_splitOnce hyears.symm
  obtain ⟨c', hc', rfl⟩ := eq_append_of_splitOnce hmonths.symm
  obtain rfl := eq_of_beq hc
  obtain rfl := eq_of_beq hc'
  obtain rfl := eq_padded_of_twoDigits? hmonth
  obtain rfl := eq_padded_of_twoDigits? hday
  unfold Date.ofFields? at hfields
  split_ifs at hfields
  obtain rfl := Option.some.inj hfields
  rw [← List.append_assoc]
  obtain hyear | ⟨hzero, hyear⟩ := append_eq_of_readYear? hsign hyear
  · left
    rw [hyear, Date.text, List.append_assoc, List.cons_append]
  · right
    rw [hyear, Date.text, List.append_assoc]
    exact ⟨hzero, by simp only [List.cons_append]⟩

/-- The text of a date of year zero may have a minus sign in front. -/
lemma date_parse?_minus_text {d : Date} (h : d.year = 0) : Date.parse? ('-' :: d.text) = some d := by
  have hcut : Date.cutSign ('-' :: d.text) = (some '-', Digits.padded 4 0 ++
      '-' :: (Digits.padded 2 d.month ++ '-' :: Digits.padded 2 d.day)) := by
    rw [Date.cutSign, date_text_eq, h]
    rfl
  refine date_parse?_of_readYear? hcut (allDigits_padded 4 0) ?_
  rw [h]
  decide +kernel

/-- A text is read as a date exactly if it is the date's text, or that text after a minus sign if the
year is zero. -/
theorem date_parse_eq_ok_iff (s : String) (d : Date) :
    Date.parse s = .ok d ↔ ∃ plain, (Value.date d).text = .ok plain ∧
      (s = plain ∨ d.year = 0 ∧ s = "-" ++ plain) := by
  have hread : Date.parse s = .ok d ↔ Date.parse? s.toList = some d := by
    unfold Date.parse
    split <;> simp_all
  have htext (cs : List Char) : s = String.ofList cs ↔ s.toList = cs := by
    rw [← String.toList_inj, String.toList_ofList]
  have hminus : "-" ++ String.ofList d.text = String.ofList ('-' :: d.text) := by
    rw [← String.toList_inj]
    simp
  rw [hread, date_text]
  constructor
  · intro h
    refine ⟨_, rfl, ?_⟩
    rw [hminus, htext, htext]
    exact eq_text_of_date_parse? h
  · rintro ⟨plain, hplain, h⟩
    obtain rfl := Except.ok.inj hplain
    rw [hminus, htext, htext] at h
    obtain h | ⟨hzero, h⟩ := h
    · rw [h, date_parse?_text]
    · rw [h, date_parse?_minus_text hzero]

end Feel.Proofs
