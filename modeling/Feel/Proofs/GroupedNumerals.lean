import Feel.Proofs.PlainText
import Feel.Proofs.TextSearch

/-!
# Grouped numerals

Taking the separators out of a grouped numeral leaves the plain one, so that both are the same number, or none.
With no separator for groups and the point for decimals every text is read as it is without separators: a text with
two points is no numeral either way.
-/

namespace Feel.Proofs
open Text

/-- A numeral whose digits in front of the fraction are written in groups, any of which may be empty. -/
structure GroupedNumeral where
  sign : Option Sign
  groups : List (List Char)
  fraction : Option (List Char)
  flatten_ne_nil : groups.flatten ≠ []
  allDigits_groups : ∀ group ∈ groups, AllDigits group
  allDigits_fraction : AllDigits (fraction.getD [])

/-- A text without digits and signs. -/
structure IsSeparator (sep : List Char) : Prop where
  ne_nil : sep ≠ []
  isDigit_eq_false : ∀ c ∈ sep, c.isDigit = false
  ne_sign : ∀ c ∈ sep, c ≠ '+' ∧ c ≠ '-'

namespace GroupedNumeral

/-- The sign and the groups, joined by a separator. -/
def front (n : GroupedNumeral) (grouping : List Char) : List Char :=
  (n.sign.map Sign.char).toList ++ grouping.intercalate n.groups

/-- The separator of decimals and the fraction. -/
def tail (n : GroupedNumeral) (point : List Char) : List Char :=
  match n.fraction with
  | none => []
  | some fraction => point ++ fraction

/-- The numeral as it is written with two separators. -/
def text (n : GroupedNumeral) (grouping point : List Char) : List Char := n.front grouping ++ n.tail point

/-- The numeral with its groups joined directly and the point for decimals. -/
def plain (n : GroupedNumeral) : List Char := (n.sign.map Sign.char).toList ++ n.groups.flatten ++ n.tail ['.']

end GroupedNumeral

/-! ### Separators -/

lemma IsSeparator.disjoint_of_forall {sep part : List Char} (h : IsSeparator sep)
    (hpart : ∀ c ∈ part, c.isDigit = true ∨ ∃ s : Sign, c = s.char) : part.Disjoint sep := by
  intro c hc hsep
  obtain ⟨hplus, hminus⟩ := h.ne_sign c hsep
  obtain hd | ⟨s, hs⟩ := hpart c hc
  · exact Bool.false_ne_true ((h.isDigit_eq_false c hsep).symm.trans hd)
  · cases s with
    | plus => exact hplus hs
    | minus => exact hminus hs

section Intercalate

variable {sep : List Char} {parts : List (List Char)} {c : Char}

lemma intercalate_cons_eq_flatMap (sep first : List Char) (rest : List (List Char)) :
    sep.intercalate (first :: rest) = first ++ rest.flatMap (sep ++ ·) := by
  induction rest generalizing first with
  | nil => rw [List.intercalate_singleton, List.flatMap_nil, List.append_nil]
  | cons part rest ih => rw [List.intercalate_cons_cons, ih, List.flatMap_cons, List.append_assoc, List.append_assoc]

lemma intercalate_append_cons (sep a b : List Char) (rest : List (List Char)) :
    sep.intercalate ((a ++ b) :: rest) = a ++ sep.intercalate (b :: rest) := by
  rw [intercalate_cons_eq_flatMap, intercalate_cons_eq_flatMap, List.append_assoc]

lemma intercalate_nil_eq_flatten (parts : List (List Char)) : ([] : List Char).intercalate parts = parts.flatten := by
  cases parts with
  | nil => rfl
  | cons first rest =>
    rw [intercalate_cons_eq_flatMap, List.flatten_cons, ← List.flatMap_id]
    rfl

lemma mem_intercalate_of_mem {part : List Char} (hc : c ∈ part) (hpart : part ∈ parts) : c ∈ sep.intercalate parts := by
  obtain ⟨first, rest, rfl⟩ := List.exists_cons_of_ne_nil (List.ne_nil_of_mem hpart)
  rw [intercalate_cons_eq_flatMap, List.mem_append, List.mem_flatMap]
  obtain rfl | hpart := List.mem_cons.mp hpart
  · exact .inl hc
  · exact .inr ⟨part, hpart, List.mem_append_right sep hc⟩

lemma mem_or_exists_of_mem_intercalate (h : c ∈ sep.intercalate parts) : c ∈ sep ∨ ∃ part ∈ parts, c ∈ part := by
  cases parts with
  | nil => exact absurd h List.not_mem_nil
  | cons first rest =>
    rw [intercalate_cons_eq_flatMap, List.mem_append, List.mem_flatMap] at h
    obtain hfirst | ⟨part, hpart, hc⟩ := h
    · exact .inr ⟨first, List.mem_cons_self, hfirst⟩
    · exact (List.mem_append.mp hc).imp_right fun hc => ⟨part, List.mem_cons_of_mem first hpart, hc⟩

end Intercalate

namespace GroupedNumeral

variable (n : GroupedNumeral)

lemma text_nil_point : n.text [] ['.'] = n.plain := by
  rw [text, front, intercalate_nil_eq_flatten, plain]

lemma trim_text_ne_nil (grouping point : List Char) : trim (n.text grouping point) ≠ [] := by
  obtain ⟨c, hc⟩ := List.exists_mem_of_ne_nil _ n.flatten_ne_nil
  obtain ⟨group, hgroup, hc⟩ := List.mem_flatten.mp hc
  refine trim_ne_nil ?_ (not_isBlank_of_isDigit (n.allDigits_groups group hgroup c hc))
  exact List.mem_append_left _ (List.mem_append_right _ (mem_intercalate_of_mem hc hgroup))

/-- The sign belongs to the first of the parts that the separator joins. -/
lemma exists_parts : ∃ parts : List (List Char), parts ≠ [] ∧ (∀ sep, n.front sep = sep.intercalate parts) ∧
    ∀ part ∈ parts, ∀ c ∈ part, c.isDigit = true ∨ ∃ s : Sign, c = s.char := by
  have hdigits := n.allDigits_groups
  obtain ⟨group, groups, hgroups⟩ : ∃ group groups, n.groups = group :: groups := by
    refine List.exists_cons_of_ne_nil fun hnil => n.flatten_ne_nil ?_
    rw [hnil, List.flatten_nil]
  rw [hgroups, List.forall_mem_cons] at hdigits
  refine ⟨((n.sign.map Sign.char).toList ++ group) :: groups, List.cons_ne_nil _ _, fun sep => ?_, ?_⟩
  · rw [front, hgroups, intercalate_append_cons]
  · rw [List.forall_mem_cons]
    refine ⟨fun c hc => ?_, fun part hpart c hc => .inl (hdigits.2 part hpart c hc)⟩
    obtain hc | hc := List.mem_append.mp hc
    · obtain ⟨s, -, hs⟩ := Option.map_eq_some_iff.mp (Option.mem_toList.mp hc)
      exact .inr ⟨s, hs.symm⟩
    · exact .inl (hdigits.1 c hc)

variable {grouping point : List Char} (hgrouping : IsSeparator grouping) (hpoint : IsSeparator point)
  (hdisjoint : grouping.Disjoint point)

include hgrouping in
lemma replaceAll_front : replaceAll grouping [] (n.front grouping) = n.front [] := by
  obtain ⟨parts, hparts, hfront, hchars⟩ := n.exists_parts
  have hsplit := isSplitAt_intercalate hgrouping.ne_nil hparts fun part hpart =>
    hgrouping.disjoint_of_forall (hchars part hpart)
  rw [hfront, hfront, hsplit.replaceAll_eq hgrouping.ne_nil]

include hpoint hdisjoint in
lemma disjoint_front : (n.front grouping).Disjoint point := by
  obtain ⟨parts, -, hfront, hchars⟩ := n.exists_parts
  intro c hc hc'
  rw [hfront] at hc
  obtain hsep | ⟨part, hpart, hc⟩ := mem_or_exists_of_mem_intercalate hc
  · exact hdisjoint hsep hc'
  · exact hpoint.disjoint_of_forall (hchars part hpart) hc hc'

include hgrouping hpoint hdisjoint in
/-- Taking the separators out leaves the plain numeral. -/
lemma ungroup?_text : Decimal.ungroup? grouping point (n.text grouping point) = some n.plain := by
  have hfront := n.disjoint_front hpoint hdisjoint
  have hdigits := n.allDigits_fraction
  rw [Decimal.ungroup?, ← text_nil_point, text, text, tail, tail]
  cases hfraction : n.fraction with
  | none =>
    have hmissing := not_isInfix_of_disjoint hpoint.ne_nil hfront
    simp only [List.append_nil]
    rw [cut?_eq_none_iff.mpr hmissing, n.replaceAll_front hgrouping]
  | some fraction =>
    rw [hfraction, Option.getD_some] at hdigits
    have hmissing : Text.contains point fraction = false := by
      rw [← Bool.not_eq_true, textContains_iff]
      exact not_isInfix_of_disjoint hpoint.ne_nil (hpoint.disjoint_of_forall fun c hc => .inl (hdigits c hc))
    have hcut := cut?_eq_some_iff.mpr (isLeftmostCut_of_disjoint hpoint.ne_nil hfront fraction)
    rw [List.append_assoc] at hcut
    simp only [hcut, hmissing, n.replaceAll_front hgrouping]
    rfl

end GroupedNumeral

/-! ### Two points -/

lemma AllDigits.count_point {cs : List Char} (h : AllDigits cs) : cs.count '.' = 0 :=
  List.count_eq_zero.mpr fun hc => absurd (h _ hc) (by decide)

lemma Sign.count_point (signs : List Sign) : (signs.map Sign.char).count '.' = 0 := by
  rw [List.count_eq_zero]
  intro hc
  obtain ⟨s, -, hs⟩ := List.mem_map.mp hc
  cases s <;> exact absurd hs (by decide)

lemma Numeral.count_point_fractionText {fraction : Option (List Char)} (h : AllDigits (fraction.getD [])) :
    (fractionText fraction).count '.' ≤ 1 := by
  cases fraction with
  | none => exact Nat.zero_le 1
  | some fraction =>
    have hdigits : AllDigits fraction := h
    rw [fractionText, List.count_cons_self, hdigits.count_point]

lemma Numeral.count_point_exponentText (exponent : Option Exponent) : (exponentText exponent).count '.' = 0 := by
  cases exponent with
  | none => rfl
  | some e =>
    have hmarker : e.marker ≠ '.' := by
      intro h
      obtain h' | h' := e.marker_eq <;> exact absurd (h.symm.trans h') (by decide)
    rw [exponentText, Exponent.tail, List.count_cons_of_ne hmarker, List.count_append, Sign.count_point,
      e.allDigits.count_point]

lemma Numeral.count_point_text_le (n : Numeral) : n.text.count '.' ≤ 1 := by
  have hsign : (n.sign.map Sign.char).toList.count '.' = 0 := by
    rw [Option.toList_map]
    exact Sign.count_point _
  have hfraction := count_point_fractionText n.allDigits_fraction
  rw [text, body, mantissa, List.count_append, List.count_append, List.count_append, hsign,
    n.allDigits_whole.count_point, count_point_exponentText]
  omega

lemma parse?_eq_none_of_points {whole fraction : List Char} (h : '.' ∈ fraction) :
    Decimal.parse? (whole ++ '.' :: fraction) = none := by
  rw [Option.eq_none_iff_forall_ne_some]
  intro r hr
  obtain ⟨n, hn, -⟩ := (parse?_eq_some_iff_numeral _ r).mp hr
  have hcount := n.count_point_text_le
  have hpos := List.count_pos_iff.mpr h
  rw [hn, List.count_append, List.count_cons_self] at hcount
  omega

lemma bind_ungroup?_point (cs : List Char) :
    (Decimal.ungroup? [] ['.'] cs).bind Decimal.parse? = Decimal.parse? cs := by
  have hkept : ∀ text, replaceAll [] [] text = text := by
    intro text
    rw [replaceAll]
    split <;> rfl
  rw [Decimal.ungroup?]
  cases hcut : cut? ['.'] cs with
  | none =>
    dsimp only
    rw [hkept, Option.bind_some]
  | some parts =>
    obtain ⟨whole, fraction⟩ := parts
    have hparts : cs = whole ++ '.' :: fraction := by
      rw [cut?_eq hcut, List.append_assoc, List.singleton_append]
    dsimp only
    split_ifs with hpoint
    · rw [textContains_iff, List.singleton_infix_iff] at hpoint
      rw [hparts, parse?_eq_none_of_points hpoint, Option.bind_none]
    · rw [hkept, hparts, Option.bind_some]

/-! ### Reading with separators -/

section Number

variable {s : String}

lemma isBlankText_eq (s : String) : Operation.isBlankText s = decide (trim s.toList = []) := by
  rw [Operation.isBlankText, Bool.eq_iff_iff, List.isEmpty_iff, decide_eq_true_iff]

lemma number_string (h : trim s.toList ≠ []) : Operation.number [.string s] = Operation.numberOf s s.toList := by
  have hblank : Operation.isBlankText s = false := (isBlankText_eq s).trans (decide_eq_false h)
  simp only [Operation.number, Value.isNull, Value.toText, hblank, Bind.bind, Except.bind, Bool.false_eq_true,
    if_false]

lemma number_separated (h : trim s.toList ≠ []) (grouping : String) {point : String} (hpoint : point ≠ "") :
    Operation.number [.string s, .string grouping, .string point] =
      Operation.numberOf s (Decimal.ungroup? grouping.toList point.toList s.toList) := by
  have hblank : Operation.isBlankText s = false := (isBlankText_eq s).trans (decide_eq_false h)
  have hempty : point.isEmpty = false := by simpa using hpoint
  simp only [Operation.number, Value.isNull, Value.toText, hblank, hempty, Bind.bind, Except.bind, Bool.or_false,
    Bool.false_eq_true, if_false]

lemma number_blank (h : trim s.toList = []) (grouping point : String) :
    Operation.number [.string s] = .ok .null ∧
      Operation.number [.string s, .string grouping, .string point] = .ok .null := by
  have hblank : Operation.isBlankText s = true := (isBlankText_eq s).trans (decide_eq_true h)
  constructor <;> simp [Operation.number, Value.isNull, Value.toText, hblank, Bind.bind, Except.bind] <;> rfl

/-- The source is for the error only. -/
lemma numberOf_eq_ok_iff {numeral : Option (List Char)} {v : Value} :
    Operation.numberOf s numeral = .ok v ↔ ∃ d, numeral.bind Decimal.parse? = some d ∧ v = .ofDecimal d := by
  rw [Operation.numberOf]
  cases numeral.bind Decimal.parse? with
  | none => simp
  | some d => simp [eq_comm]

end Number

/-- With no separator for groups and the point for decimals a text is read as without separators. A grouped numeral
is the same number as the plain one, if that is a number, and never null. -/
theorem number_ungroups :
    (∀ t : String, Operation.number [.string t, .string "", .string "."] = Operation.number [.string t]) ∧
    ∀ (n : GroupedNumeral) (grouping point : String), IsSeparator grouping.toList → IsSeparator point.toList →
      grouping.toList.Disjoint point.toList →
      (∀ v, Operation.number [.ofChars (n.text grouping.toList point.toList), .string grouping, .string point] = .ok v ↔
        Operation.number [.ofChars n.plain] = .ok v) ∧
      Operation.number [.ofChars n.plain] ≠ .ok .null := by
  refine ⟨fun t => ?_, fun n grouping point hgrouping hpoint hdisjoint => ?_⟩
  · by_cases hblank : trim t.toList = []
    · obtain ⟨hplain, hseparated⟩ := number_blank hblank "" "."
      rw [hplain, hseparated]
    · have hpoint : Decimal.ungroup? "".toList ".".toList t.toList = Decimal.ungroup? [] ['.'] t.toList := rfl
      rw [number_separated hblank "" (by decide), number_string hblank, hpoint, Operation.numberOf, Operation.numberOf,
        bind_ungroup?_point, Option.bind_some]
  · have hne : point ≠ "" := mt String.toList_eq_nil_iff.mpr hpoint.ne_nil
    have hseparated := number_separated (s := String.ofList (n.text grouping.toList point.toList))
      (by rw [String.toList_ofList]; exact n.trim_text_ne_nil _ _) grouping hne
    have hplain := number_string (s := String.ofList n.plain)
      (by rw [String.toList_ofList, ← n.text_nil_point]; exact n.trim_text_ne_nil _ _)
    rw [String.toList_ofList] at hseparated hplain
    refine ⟨fun v => ?_, ?_⟩
    · rw [Value.ofChars, Value.ofChars, hseparated, hplain, n.ungroup?_text hgrouping hpoint hdisjoint,
        numberOf_eq_ok_iff, numberOf_eq_ok_iff]
    · rw [Value.ofChars, hplain, Ne, numberOf_eq_ok_iff]
      rintro ⟨d, -, hd⟩
      cases hd

/-- Groups joined by two points, also around an empty group, where these overlap. -/
theorem number_ungroups_overlapping :
    IsSeparator "..".toList ∧ IsSeparator ", ".toList ∧ "..".toList.Disjoint ", ".toList ∧
      Operation.number [.string "-1....000, 50", .string "..", .string ", "] = .ok (.number ⟨-10005, 1⟩) ∧
      Operation.number [.string "1.2.3", .string "", .string "."] = Operation.number [.string "1.2.3"] := by
  have hgrouping : IsSeparator "..".toList := ⟨by simp, by simp, by simp⟩
  have hpoint : IsSeparator ", ".toList := ⟨by simp, by simp, by simp⟩
  have hdisjoint : "..".toList.Disjoint ", ".toList := by simp [List.Disjoint]
  let n : GroupedNumeral :=
    { sign := some .minus, groups := [['1'], [], ['0', '0', '0']], fraction := some ['5', '0'],
      flatten_ne_nil := by decide, allDigits_groups := by simp [AllDigits],
      allDigits_fraction := by simp [AllDigits] }
  obtain ⟨hempty, hgrouped⟩ := number_ungroups
  have hparse : Decimal.parse? "-1000.50".toList = some ⟨-10005, 1⟩ := by decide +kernel
  have hplain : Operation.number [.string "-1000.50"] = .ok (.number ⟨-10005, 1⟩) := by
    rw [number_string (by decide +kernel), numberOf_eq_ok_iff]
    exact ⟨_, hparse, congrArg Value.number (by decide +kernel)⟩
  exact ⟨hgrouping, hpoint, hdisjoint, ((hgrouped n ".." ", " hgrouping hpoint hdisjoint).1 _).mpr hplain,
    hempty "1.2.3"⟩

end Feel.Proofs
