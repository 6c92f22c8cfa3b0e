import Feel.Proofs.Produced
import Feel.Proofs.ZonedTexts

/-!
# Times and date-times with an offset as text

Offsets are written with seconds where they have any, but literals give whole minutes and less than
nineteen hours. So a text is read back exactly if its offset is one of those. Every time that comes
from a literal or from fields has such an offset, and so has every date-time without a zone; a time
that is taken out of a date-time with a zone may have one that no literal can give.
-/

namespace Feel.Proofs
open Text

/-! ### Offsets -/

/-- The offset can be given by a literal: whole minutes, and less than nineteen hours. -/
def HasLiteral (o : Offset) : Prop := o.seconds % 60 = 0 ∧ o.seconds.natAbs < 19 * 3600

instance (o : Offset) : Decidable (HasLiteral o) := inferInstanceAs (Decidable (_ ∧ _))

lemma hasLiteral_utc : HasLiteral .utc := by decide

/-- Minutes, and seconds where there are any. -/
def minuteText (n : ℕ) : List Char :=
  Digits.padded 2 (n / 60 % 60) ++ if n % 60 = 0 then [] else ':' :: Digits.padded 2 (n % 60)

def hourText (n : ℕ) : List Char := Digits.padded 2 (n / 3600) ++ ':' :: minuteText n

lemma numeral_eq (o : Offset) :
    o.numeral = (if o.seconds < 0 then '-' else '+') :: hourText o.seconds.natAbs := by
  unfold Offset.numeral hourText minuteText
  simp only [List.append_assoc, List.cons_append]

lemma hourText_ne_nil (n : ℕ) : hourText n ≠ [] :=
  List.append_ne_nil_of_right_ne_nil _ (List.cons_ne_nil _ _)

lemma mem_hourText {n : ℕ} {x : Char} (h : x ∈ hourText n) : x.isDigit = true ∨ x = ':' := by
  unfold hourText minuteText at h
  simp only [List.mem_append, List.mem_cons] at h
  obtain h | rfl | h | h := h
  · exact Or.inl (allDigits_padded _ _ x h)
  · exact Or.inr rfl
  · exact Or.inl (allDigits_padded _ _ x h)
  · split_ifs at h
    · simp at h
    · obtain rfl | h := List.mem_cons.mp h
      · exact Or.inr rfl
      · exact Or.inl (allDigits_padded _ _ x h)

lemma mem_offset_text {o : Offset} {x : Char} (h : x ∈ o.text) :
    x.isDigit = true ∨ x ∈ ['Z', '-', '+', ':'] := by
  rw [Offset.text, numeral_eq] at h
  split_ifs at h
  · rw [List.mem_singleton.mp h]
    simp
  all_goals
    obtain rfl | h := List.mem_cons.mp h
    · simp
    · obtain h | rfl := mem_hourText h
      · exact Or.inl h
      · simp

lemma twoDigits?_minuteText (n : ℕ) :
    Date.twoDigits? (minuteText n) = if n % 60 = 0 then some (n / 60 % 60) else none := by
  unfold minuteText
  split_ifs with h
  · rw [List.append_nil, twoDigits?_padded (by omega)]
  · have hlength : (Digits.padded 2 (n / 60 % 60) ++ ':' :: Digits.padded 2 (n % 60)).length = 5 := by
      rw [List.length_append, List.length_cons, length_padded (by omega) (by omega),
        length_padded (by omega) (by omega)]
    rw [Date.twoDigits?, if_neg fun hform => absurd (hlength.symm.trans hform.1) (by omega)]

lemma readSigned?_hourText {o : Offset} {negative : Bool} (h : negative = decide (o.seconds < 0)) :
    Offset.readSigned? negative (hourText o.seconds.natAbs) = if HasLiteral o then some o else none := by
  have hbound : o.seconds.natAbs < 86400 := o.bounded
  have hseconds : (if negative = true then
      -(((o.seconds.natAbs / 3600 : ℕ) : ℤ) * 3600 + (o.seconds.natAbs / 60 % 60 : ℕ) * 60)
      else ((o.seconds.natAbs / 3600 : ℕ) : ℤ) * 3600 + (o.seconds.natAbs / 60 % 60 : ℕ) * 60) =
      o.seconds ∨ o.seconds % 60 ≠ 0 := by
    rw [h]
    simp only [decide_eq_true_eq]
    split_ifs <;> omega
  have hminutes : o.seconds.natAbs % 60 = 0 ↔ o.seconds % 60 = 0 := by omega
  rw [Offset.readSigned?, hourText, splitOnce_digits (allDigits_padded _ _) (by decide)]
  simp only [Offset.ofDigits?, twoDigits?_padded (by omega : o.seconds.natAbs / 3600 < 100),
    twoDigits?_minuteText, Option.bind_eq_bind, Option.bind_some, hminutes]
  by_cases hwhole : o.seconds % 60 = 0
  · rw [if_pos hwhole, Option.bind_some, hseconds.resolve_right (not_not.mpr hwhole)]
    by_cases hlt : o.seconds.natAbs < 19 * 3600
    · rw [if_pos ⟨by unfold Offset.maxHour; omega, by omega⟩, if_pos ⟨hwhole, hlt⟩, Offset.ofSeconds?,
        dif_pos o.bounded]
    · rw [if_neg (by unfold Offset.maxHour; omega), if_neg fun hliteral => hlt hliteral.2]
  · rw [if_neg hwhole, Option.bind_none, if_neg fun hliteral => hwhole hliteral.1]

/-- The text of an offset is read back if literals can give the offset, and not at all else. -/
lemma offset_parse?_text (o : Offset) :
    Offset.parse? o.text = if HasLiteral o then some o else none := by
  by_cases hzero : o.seconds = 0
  · obtain rfl : o = .utc := by
      cases o
      subst hzero
      rfl
    rfl
  · rw [Offset.text, if_neg hzero, numeral_eq]
    by_cases hneg : o.seconds < 0
    · rw [if_pos hneg]
      exact readSigned?_hourText (by simp [hneg])
    · rw [if_neg hneg]
      exact readSigned?_hourText (by simp [hneg])

/-! ### Cutting the offset off -/

lemma cutAtSign?_append {front body : List Char} {sign : Char} (hfront : front ≠ [])
    (hsign : sign = '-' ∨ sign = '+') (hbody : ∀ x ∈ body, x.isDigit = true ∨ x = ':') :
    Offset.cutAtSign? (front ++ sign :: body) = some (front, sign :: body) := by
  have htail : ((front ++ sign :: body).reverse.takeWhile fun c => !(c == '+' || c == '-')) =
      body.reverse := by
    have hfree : ∀ x ∈ body.reverse, (!(x == '+' || x == '-')) = true := by
      intro x hx
      obtain hd | rfl := hbody x (List.mem_reverse.mp hx)
      · rw [beq_eq_false_of_isDigit hd (by decide), beq_eq_false_of_isDigit hd (by decide)]
        rfl
      · rfl
    have hstop : (!(sign == '+' || sign == '-')) = false := by
      obtain rfl | rfl := hsign <;> rfl
    rw [List.reverse_append, List.reverse_cons, List.append_assoc, List.takeWhile_append_of_pos hfree,
      List.singleton_append, List.takeWhile_cons_of_neg (by simp [hstop]), List.append_nil]
  have hlength : (front ++ sign :: body).length = front.length + body.length + 1 := by
    rw [List.length_append, List.length_cons, Nat.add_assoc]
  have hfrontLength : (front ++ sign :: body).length - body.length - 1 = front.length := by omega
  rw [Offset.cutAtSign?, htail, List.reverse_reverse, hfrontLength, List.take_left, if_neg]
  · rw [List.drop_left]
  · rintro (heq | hempty)
    · omega
    · exact hfront (List.isEmpty_iff.mp hempty)

/-- A text and an offset after it come apart at the sign. -/
lemma offset_cut_append {front body : List Char} {sign : Char} (hfront : front ≠ [])
    (hsign : sign = '-' ∨ sign = '+') (hne : body ≠ []) (hbody : ∀ x ∈ body, x.isDigit = true ∨ x = ':') :
    Offset.cut (front ++ sign :: body) = (front, some (sign :: body)) := by
  have hlast : ∀ x, (front ++ sign :: body).getLast? = some x → x.isDigit = true ∨ x = ':' := by
    intro x hx
    rw [List.append_cons, List.getLast?_append_of_ne_nil _ hne] at hx
    exact hbody x (List.mem_of_getLast? hx)
  rw [Offset.cut]
  split
  · exact absurd (hlast 'Z' (by assumption)) (by decide)
  · exact absurd (hlast 'z' (by assumption)) (by decide)
  · rw [cutAtSign?_append hfront hsign hbody]

/-- A clock's text and an offset's text come apart where they were put together. -/
lemma offset_cut_text (c : Clock) (o : Offset) :
    Offset.cut (c.text ++ o.text) = (c.text, some o.text) := by
  rw [Offset.text]
  split_ifs with hzero
  · rw [Offset.cut, List.getLast?_concat]
    simp only [List.dropLast_concat]
  · have hne : c.text ≠ [] := List.ne_nil_of_mem (by simp [Clock.text] : ':' ∈ c.text)
    have hsign : (if o.seconds < 0 then '-' else '+') = '-' ∨
        (if o.seconds < 0 then '-' else '+') = '+' := by
      split_ifs <;> simp
    rw [numeral_eq]
    exact offset_cut_append hne hsign (hourText_ne_nil _) fun x hx => mem_hourText hx

/-! ### Reading back -/

lemma mem_offsetTime_text {t : OffsetTime} {x : Char} (h : x ∈ t.text) :
    x.isDigit = true ∨ x ∈ ['Z', '-', '+', ':', '.'] := by
  rw [OffsetTime.text, List.mem_append] at h
  obtain h | h := h
  · exact (mem_clock_text h).imp_right (by rintro (rfl | rfl) <;> decide)
  · exact (mem_offset_text h).imp_right (List.mem_append_left ['.'])

lemma offsetTime_parse?_text (t : OffsetTime) :
    OffsetTime.parse? t.text = if HasLiteral t.offset then some t else none := by
  have hfree : ¬(t.text.any fun c => c == '@' || c == '[') = true := by
    rw [List.any_eq_true]
    rintro ⟨x, hx, hzone⟩
    rw [Bool.or_eq_true, beq_iff_eq, beq_iff_eq] at hzone
    exact hzone.elim (ne_of_isDigit_or_mem (mem_offsetTime_text hx) (by decide) (by decide))
      (ne_of_isDigit_or_mem (mem_offsetTime_text hx) (by decide) (by decide))
  rw [OffsetTime.parse?, if_neg hfree, OffsetTime.text, offset_cut_text]
  simp only [clock_parse?_text, offset_parse?_text, Option.bind_eq_bind, Option.bind_some]
  split_ifs <;> rfl

lemma cutZone_eq_self {cs : List Char} (h : ∀ x ∈ cs, x ≠ '@' ∧ x ≠ ']') :
    DateTime.cutZone cs = (cs, none) := by
  rw [DateTime.cutZone, splitOnce_of_forall fun x hx => beq_eq_false_iff_ne.mpr (h x hx).1]
  simp only
  split
  · rename_i hlast _
    exact absurd rfl (h ']' (List.mem_of_getLast? hlast)).2
  · rfl

/-- The text of a date-time without a zone: the day, and the time with its offset. -/
def plainText (shown : LocalDateTime) (offset : Offset) : List Char :=
  shown.date.text ++ 'T' :: OffsetTime.text ⟨shown.clock, offset⟩

lemma dateTime_text_of_zone_none {t : DateTime} {shown : LocalDateTime} (h : t.shown = .ok shown)
    (hzone : t.zone = none) : t.text = .ok (plainText shown t.offset) := by
  have htext : t.text = .ok (shown.textWith 'T' ++ t.offset.text) := by
    rw [DateTime.text, h, hzone]
    rfl
  rw [htext, LocalDateTime.textWith, List.append_assoc, List.cons_append]
  rfl

section PlainText

variable {shown : LocalDateTime} {offset : Offset}

lemma mem_plainText {x : Char} (hx : x ∈ plainText shown offset) :
    x.isDigit = true ∨ x ∈ ['T', 'Z', '-', '+', ':', '.'] := by
  rw [plainText, List.mem_append, List.mem_cons] at hx
  obtain hx | rfl | hx := hx
  · exact (mem_date_text hx).imp_right (by rintro (rfl | rfl) <;> decide)
  · exact Or.inr (by decide)
  · exact (mem_offsetTime_text hx).imp_right (List.mem_cons_of_mem 'T')

/-- What a date-time without a zone shows and its offset come apart where they were put together. -/
lemma readParts?_plainText (zones : List Zone) :
    DateTime.readParts? zones (plainText shown offset) =
      if HasLiteral offset then some ⟨shown, some offset, none⟩ else none := by
  have hzone : DateTime.cutZone (plainText shown offset) = (plainText shown offset, none) := by
    refine cutZone_eq_self fun x hx => ⟨?_, ?_⟩
    · exact ne_of_isDigit_or_mem (mem_plainText hx) (by decide) (by decide)
    · exact ne_of_isDigit_or_mem (mem_plainText hx) (by decide) (by decide)
  rw [DateTime.readParts?, hzone, plainText]
  simp only [splitOnce_date_text, DateTime.cutClock, OffsetTime.text, offset_cut_text, date_parse?_text,
    clock_parse?_text, offset_parse?_text, Option.mapM_some, Option.mapM_none, Option.bind_eq_bind,
    Option.bind_some]
  split_ifs <;> rfl

end PlainText

end Feel.Proofs
