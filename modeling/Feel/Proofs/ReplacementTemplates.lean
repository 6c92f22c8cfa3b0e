import Feel.Pattern.Replacement
import Feel.Proofs.DigitStrings

/-!
# Templates of replacements

Translating a replacement and expanding the template for a match gives the text that the replacement stands for:
an escaped backslash or dollar sign is itself, a dollar sign with the digits that follow it is the text of that
group, and any other character is itself. A replacement has no template if a backslash or a dollar sign in it
is neither escaped nor followed as it must be.
-/

namespace Feel.Proofs
open Pattern.Template

/-- The text that a replacement stands for, given the texts of the groups. A dollar sign takes all digits that
follow it. -/
inductive Expands (groupText : ℕ → Option (List Char)) : List Char → List Char → Prop
  | nil : Expands groupText [] []
  | backslash {r out : List Char} (h : Expands groupText r out) : Expands groupText ('\\' :: '\\' :: r) ('\\' :: out)
  | dollar {r out : List Char} (h : Expands groupText r out) : Expands groupText ('\\' :: '$' :: r) ('$' :: out)
  | group {digits r out : List Char} (hne : digits ≠ []) (hdigits : AllDigits digits)
      (hend : ∀ c ∈ r.head?, c.isDigit = false) (h : Expands groupText r out) :
      Expands groupText ('$' :: (digits ++ r)) ((groupText (Digits.toNat digits)).getD [] ++ out)
  | char {c : Char} {r out : List Char} (hbackslash : c ≠ '\\') (hdollar : c ≠ '$') (h : Expands groupText r out) :
      Expands groupText (c :: r) (c :: out)

/-- Whether what follows a text is escaped: it follows a backslash that is not escaped itself. The first
character of the text may be escaped already. -/
def escapesNext (escaped : Bool) (text : List Char) : Bool :=
  text.foldl (fun escaped c => c == '\\' && !escaped) escaped

/-- A backslash that neither a backslash nor a dollar sign follows, or a dollar sign that no digit follows. -/
def IsStray (c : Char) (after : List Char) : Prop :=
  (c = '\\' ∧ after.head? ≠ some '\\' ∧ after.head? ≠ some '$') ∨ (c = '$' ∧ ∀ d ∈ after.head?, d.isDigit = false)

/-- The text, of which the first character may be escaped, holds a stray character that is not escaped. -/
def HoldsStray (escaped : Bool) (text : List Char) : Prop :=
  ∃ before c after, text = before ++ c :: after ∧ escapesNext escaped before = false ∧ IsStray c after

/-! ### Stray characters -/

section HoldsStray

variable {escaped : Bool} {c : Char} {digits r : List Char}

lemma not_holdsStray_nil : ¬HoldsStray escaped [] := by
  rintro ⟨before, c, after, h, -⟩
  exact List.append_ne_nil_of_right_ne_nil before (List.cons_ne_nil c after) h.symm

lemma holdsStray_cons : HoldsStray escaped (c :: r) ↔
    (escaped = false ∧ IsStray c r) ∨ HoldsStray (c == '\\' && !escaped) r := by
  constructor
  · rintro ⟨before, d, after, heq, hbefore, hstray⟩
    cases before with
    | nil =>
      obtain ⟨rfl, rfl⟩ := List.cons.inj heq
      exact .inl ⟨hbefore, hstray⟩
    | cons x before =>
      obtain ⟨rfl, rfl⟩ := List.cons.inj heq
      exact .inr ⟨before, d, after, rfl, hbefore, hstray⟩
  · rintro (⟨hescaped, hstray⟩ | ⟨before, d, after, rfl, hbefore, hstray⟩)
    · exact ⟨[], c, r, rfl, hescaped, hstray⟩
    · exact ⟨c :: before, d, after, rfl, hbefore, hstray⟩

/-- A character that is no backslash and is not stray can be left out. -/
lemma holdsStray_cons_of_not_isStray (hbackslash : c ≠ '\\') (hstray : ¬IsStray c r) :
    HoldsStray false (c :: r) ↔ HoldsStray false r := by
  rw [holdsStray_cons, beq_eq_false_iff_ne.mpr hbackslash, Bool.false_and]
  exact or_iff_right fun h => hstray h.2

lemma not_isStray_of_ne (hbackslash : c ≠ '\\') (hdollar : c ≠ '$') : ¬IsStray c r := by
  rintro (⟨h, -⟩ | ⟨h, -⟩)
  · exact hbackslash h
  · exact hdollar h

lemma holdsStray_escape (hc : c = '\\' ∨ c = '$') : HoldsStray false ('\\' :: c :: r) ↔ HoldsStray false r := by
  obtain rfl | rfl := hc <;> simp [holdsStray_cons, IsStray]

lemma ne_of_isDigit (h : c.isDigit = true) : c ≠ '\\' ∧ c ≠ '$' := by
  constructor <;> rintro rfl <;> exact absurd h (by decide)

lemma holdsStray_digits_append (hdigits : AllDigits digits) :
    HoldsStray false (digits ++ r) ↔ HoldsStray false r := by
  induction digits with
  | nil => rfl
  | cons d digits ih =>
    obtain ⟨hbackslash, hdollar⟩ := ne_of_isDigit (hdigits d List.mem_cons_self)
    rw [List.cons_append, holdsStray_cons_of_not_isStray hbackslash (not_isStray_of_ne hbackslash hdollar)]
    exact ih fun c hc => hdigits c (List.mem_cons_of_mem d hc)

lemma holdsStray_group (hne : digits ≠ []) (hdigits : AllDigits digits) :
    HoldsStray false ('$' :: (digits ++ r)) ↔ HoldsStray false r := by
  have hstray : ¬IsStray '$' (digits ++ r) := by
    obtain ⟨d, digits, rfl⟩ := List.exists_cons_of_ne_nil hne
    have hd : d.isDigit = true := hdigits d List.mem_cons_self
    simp [IsStray, hd]
  rw [holdsStray_cons_of_not_isStray (by decide) hstray, holdsStray_digits_append hdigits]

end HoldsStray

/-! ### Translation -/

section Translation

variable {r : List Char}

lemma allDigits_takeWhile (cs : List Char) : AllDigits (cs.takeWhile Char.isDigit) :=
  fun _ hc => List.mem_takeWhile_imp hc

lemma isDigit_head?_dropWhile {cs : List Char} : ∀ c ∈ (cs.dropWhile Char.isDigit).head?, c.isDigit = false := by
  intro c hc
  have h := List.head?_dropWhile_not Char.isDigit cs
  rw [Option.mem_def.mp hc] at h
  exact h

/-- The digits in front of something else are those taken from the front. -/
lemma takeWhile_dropWhile_digits {digits : List Char} (hdigits : AllDigits digits)
    (hend : ∀ c ∈ r.head?, c.isDigit = false) :
    (digits ++ r).takeWhile Char.isDigit = digits ∧ (digits ++ r).dropWhile Char.isDigit = r := by
  rw [List.takeWhile_append_of_pos hdigits, List.dropWhile_append_of_pos hdigits]
  cases r with
  | nil => exact ⟨List.append_nil digits, rfl⟩
  | cons c r =>
    have hc : ¬c.isDigit = true := by simp [hend c rfl]
    rw [List.takeWhile_cons_of_neg hc, List.dropWhile_cons_of_neg hc, List.append_nil]
    exact ⟨rfl, rfl⟩

/-- A replacement has no template exactly if it holds a stray character. -/
lemma ofReplacement?_eq_none_iff : ofReplacement? r = none ↔ HoldsStray false r := by
  fun_induction ofReplacement? r with
  | case1 => exact iff_of_false (Option.some_ne_none _) not_holdsStray_nil
  | case2 rest ih => rw [Option.map_eq_none_iff, ih, holdsStray_escape (.inl rfl)]
  | case3 rest ih => rw [Option.map_eq_none_iff, ih, holdsStray_escape (.inr rfl)]
  | case4 cs hbackslash hdollar =>
    refine iff_of_true rfl (holdsStray_cons.mpr (.inl ⟨rfl, .inl ⟨rfl, fun h => ?_, fun h => ?_⟩⟩))
    · exact hbackslash cs.tail (List.eq_cons_of_mem_head? h)
    · exact hdollar cs.tail (List.eq_cons_of_mem_head? h)
  | case5 cs ds hds =>
    have hkept : cs.dropWhile Char.isDigit = cs := by
      have hnil : cs.takeWhile Char.isDigit = [] := List.isEmpty_iff.mp hds
      have hall := List.takeWhile_append_dropWhile (p := Char.isDigit) (l := cs)
      rwa [hnil, List.nil_append] at hall
    refine iff_of_true rfl (holdsStray_cons.mpr (.inl ⟨rfl, .inr ⟨rfl, ?_⟩⟩))
    rw [← hkept]
    exact isDigit_head?_dropWhile
  | case6 cs ds hds ih =>
    have hne : ds ≠ [] := by simpa using hds
    rw [Option.map_eq_none_iff, ih, ← holdsStray_group hne (allDigits_takeWhile cs), List.takeWhile_append_dropWhile]
  | case7 c cs hbackslash hdollar ih =>
    rw [Option.map_eq_none_iff, ih,
      holdsStray_cons_of_not_isStray hbackslash (not_isStray_of_ne hbackslash hdollar)]

end Translation

/-! ### Expansion -/

section Expansion

variable {groupText : ℕ → Option (List Char)} {digits r out template : List Char}

lemma expand_char {c : Char} (h : c ≠ '$') (template : List Char) :
    expand groupText (c :: template) = c :: expand groupText template := by
  rw [expand] <;> simp [h]

lemma expand_reference (hne : digits ≠ []) (hdigits : AllDigits digits) (template : List Char) :
    expand groupText ('$' :: '{' :: digits ++ '}' :: template) =
      (groupText (Digits.toNat digits)).getD [] ++ expand groupText template := by
  have hinside : ∀ c ∈ digits, (c != '}') = true := by
    intro c hc
    rw [bne_iff_ne]
    rintro rfl
    exact absurd (hdigits _ hc) (by decide)
  have hdrop : (digits ++ '}' :: template).dropWhile (· != '}') = '}' :: template := by
    rw [List.dropWhile_append_of_pos hinside, List.dropWhile_cons_of_neg (by decide)]
  have htake : (digits ++ '}' :: template).takeWhile (· != '}') = digits := by
    rw [List.takeWhile_append_of_pos hinside, List.takeWhile_cons_of_neg (by decide), List.append_nil]
  have hnumber : Digits.isNumber digits = true := isNumber_iff.mpr ⟨hne, hdigits⟩
  rw [List.cons_append, List.cons_append, expand]
  split
  · next hnil => exact absurd (hdrop.symm.trans hnil) (List.cons_ne_nil _ _)
  · next c after hcons =>
    obtain ⟨-, rfl⟩ := List.cons.inj (hdrop.symm.trans hcons)
    rw [htake, referenced, if_pos hnumber]

/-- The template of a replacement expands to the text that the replacement stands for. -/
lemma expands_expand (h : ofReplacement? r = some template) : Expands groupText r (expand groupText template) := by
  fun_induction ofReplacement? r generalizing template with
  | case1 =>
    obtain rfl := Option.some.inj h
    rw [expand]
    exact .nil
  | case2 rest ih =>
    obtain ⟨template, hrest, rfl⟩ := Option.map_eq_some_iff.mp h
    rw [expand_char (by decide)]
    exact .backslash (ih hrest)
  | case3 rest ih =>
    obtain ⟨template, hrest, rfl⟩ := Option.map_eq_some_iff.mp h
    rw [expand]
    exact .dollar (ih hrest)
  | case4 => exact absurd h.symm (Option.some_ne_none _)
  | case5 => exact absurd h.symm (Option.some_ne_none _)
  | case6 cs ds hds =>
    rename_i ih
    obtain ⟨template, hrest, rfl⟩ := Option.map_eq_some_iff.mp h
    have hne : ds ≠ [] := by simpa using hds
    rw [expand_reference hne (allDigits_takeWhile cs)]
    have hexpands := Expands.group hne (allDigits_takeWhile cs) isDigit_head?_dropWhile (ih hrest)
    rwa [List.takeWhile_append_dropWhile] at hexpands
  | case7 c cs hbackslash hdollar ih =>
    obtain ⟨template, hrest, rfl⟩ := Option.map_eq_some_iff.mp h
    rw [expand_char hdollar]
    exact .char hbackslash hdollar (ih hrest)

/-- A replacement stands for nothing else than what its template expands to. -/
lemma Expands.exists_template (h : Expands groupText r out) :
    ∃ template, ofReplacement? r = some template ∧ expand groupText template = out := by
  induction h with
  | nil => exact ⟨[], by rw [ofReplacement?], by rw [expand]⟩
  | backslash _ ih =>
    obtain ⟨template, hrest, rfl⟩ := ih
    exact ⟨'\\' :: template, by rw [ofReplacement?, hrest]; rfl, expand_char (by decide) template⟩
  | dollar _ ih =>
    obtain ⟨template, hrest, rfl⟩ := ih
    exact ⟨'$' :: '$' :: template, by rw [ofReplacement?, hrest]; rfl, by rw [expand]⟩
  | @group digits r out hne hdigits hend _ ih =>
    obtain ⟨template, hrest, rfl⟩ := ih
    obtain ⟨htake, hdrop⟩ := takeWhile_dropWhile_digits hdigits hend
    refine ⟨'$' :: '{' :: digits ++ '}' :: template, ?_, expand_reference hne hdigits template⟩
    rw [ofReplacement?, htake, hdrop, if_neg (by simpa using hne), hrest]
    rfl
  | char hbackslash hdollar _ ih =>
    obtain ⟨template, hrest, rfl⟩ := ih
    refine ⟨_ :: template, ?_, expand_char hdollar template⟩
    rw [ofReplacement?, hrest]
    · rfl
    · exact hbackslash
    · exact hdollar

lemma expands_iff (h : ofReplacement? r = some template) :
    Expands groupText r out ↔ out = expand groupText template := by
  constructor
  · intro hout
    obtain ⟨other, hother, rfl⟩ := hout.exists_template
    rw [Option.some.inj (h.symm.trans hother)]
  · rintro rfl
    exact expands_expand h

end Expansion

end Feel.Proofs
