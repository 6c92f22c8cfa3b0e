import Feel.Proofs.SessionBounds

/-!
# Forms of the numbers that sessions reach

Most functions give numbers without trailing zeros. Calendar fields, components of durations and the
items of ranges are words with all their digits. So a session reaches numbers that are not in normal
form, and these are exactly the words, other than zero, that end in zero.
-/

namespace Feel.Proofs

/-- A number without trailing zeros, or a word with the digits that it is written with. -/
def IsKept (n : Decimal) : Prop := IsNormal n ∨ n.scale = 0 ∧ IsWord n.digits

lemma FreshNumber.isKept {args : List Value} {n : Decimal} (h : FreshNumber args n)
    (hdurations : ∀ d, .duration d ∈ args → d.InRange) : IsKept n := by
  cases h with
  | word h => exact Or.inr ⟨rfl, h⟩
  | component hd hk => exact Or.inr ⟨rfl, isWord_of_component (hdurations _ hd) hk⟩
  | _ => exact Or.inl (isNormal_normalize _)

/-- Durations within their bounds and numbers in one of the two forms. -/
def HasForm : Value → Prop
  | .number n => IsKept n
  | .duration d => d.InRange
  | _ => True

lemma hasForm_of_isGroup {v : Value} (h : IsGroup v) : HasForm v := by
  cases v with
  | list items => trivial
  | context entries => trivial
  | _ => exact h.elim

lemma Fresh.hasForm [Zones] {args : List Value} {v : Value} (h : Fresh args v)
    (hargs : ∀ a ∈ args, ∀ p, IsPart p a → HasForm p) : HasForm v := by
  cases v with
  | number n =>
    cases h with
    | number h => exact h.isKept fun d hd => hargs _ hd _ .self
  | duration d => exact h.inRange
  | _ => trivial

lemma Session.isKept [Zones] {past : List Exchange} {library : Library} (h : Session past library)
    {n : Decimal} (hn : Reached past (.number n)) : IsKept n := by
  have hform : ∀ v, Reached past v → HasForm v := by
    apply h.forall_reached (Q := fun _ => True) (fun v => hasForm_of_isGroup)
    · exact fun args v _ hargs hfresh => hfresh.hasForm hargs
    · exact fun _ _ _ _ => trivial
  exact hform _ hn

/-! ### Ranges of one number -/

lemma isDocument_number [Zones] {n : Decimal} (h : IsHeld n) : IsDocument (.number n.normalize) := by
  have hnormal : n.normalize.normalize = n.normalize := normalize_eq_self (isNormal_normalize n)
  have hread : Value.ofNumeral n.plain = .ok (.number n.normalize) := by
    rw [Value.ofNumeral, parse?_plain h]
    dsimp only [Value.ofDecimal]
    rw [hnormal]
  refine ⟨0, .number n.plain, 0, ?_⟩
  rw [Value.decode, hread]
  rfl

lemma interval_self (k : ℤ) : Sequence.interval k k = [k] := by
  simp [Sequence.interval]

/-- The range from a word to itself holds the word with all its digits, whatever form the ends have. -/
lemma rangeToList_self [Zones] {n : Decimal} {k : ℤ} (hn : value n = k) (hk : IsWord k) :
    Builtin.rangeToList.run [.boolean false, .number n, .boolean false, .number n] =
      .ok (.list [.ofInt k]) := by
  have hwhole : Operation.wholeOf (.number n) = .ok k := (word_eq_ok_iff n k).mpr ⟨hn, hk⟩
  have hbounds : ¬(Word.max64 < k ∨ k < -(Word.max64 : ℤ) - 1) := by
    rintro (h | h)
    · exact absurd hk.2 (not_le.mpr h)
    · exact absurd hk.1 (not_le.mpr h)
  have hlength : ¬(k - k < -(Word.max64 : ℤ) - 1 ∨ Operation.maxRangeLength ≤ k - k) := by
    rw [sub_self]
    decide
  simp only [Builtin.run, Operation.rangeToList, Value.toBool, anyNull, List.any_cons, List.any_nil,
    Value.isNull, hwhole, Bind.bind, Except.bind, Bool.or_false, Bool.false_eq_true, if_false]
  rw [if_neg hbounds, if_neg hlength, interval_self]
  rfl

/-- The range from a word to itself, which documents write without trailing zeros. -/
lemma session_rangeToList [Zones] {k : ℤ} (hk : IsWord k) :
    Session [⟨"rangeToList", [.boolean false, .number (Decimal.ofInt k).normalize, .boolean false,
      .number (Decimal.ofInt k).normalize], .list [.ofInt k]⟩] (.ofSink .memory) := by
  have hdocument := isDocument_number (isHeld_ofInt (natAbs_le_of_isWord hk))
  have hrun : Builtin.rangeToList.run [.boolean false, .number (Decimal.ofInt k).normalize, .boolean false,
      .number (Decimal.ofInt k).normalize] = .ok (.list [.ofInt k]) := by
    apply rangeToList_self _ hk
    rw [value_normalize, value_ofInt]
  refine (Session.start .memory).run (f := .rangeToList) (fun a ha => Or.inl ?_) rfl hrun
  simp only [List.mem_cons, List.not_mem_nil, or_false] at ha
  obtain rfl | rfl | rfl | rfl := ha
  · exact isDocument_boolean false
  · exact hdocument
  · exact isDocument_boolean false
  · exact hdocument

/-- A session that reaches a word with all its digits. -/
lemma exists_session_ofInt [Zones] {k : ℤ} (hk : IsWord k) :
    ∃ past library, Session past library ∧ Reached past (.ofInt k) :=
  ⟨_, _, session_rangeToList hk, reached_answer (.item List.mem_cons_self .self)⟩

/-- The numbers out of normal form that sessions reach are the words that end in zero, zero itself
apart. -/
theorem reached_not_isNormal_iff [Zones] (n : Decimal) :
    (∃ past library, Session past library ∧ Reached past (.number n)) ∧ ¬IsNormal n ↔
      n.scale = 0 ∧ IsWord n.digits ∧ n.digits ≠ 0 ∧ n.digits % 10 = 0 := by
  constructor
  · rintro ⟨⟨past, library, hsession, hreached⟩, hnormal⟩
    obtain ⟨hscale, hword⟩ := (hsession.isKept hreached).resolve_left hnormal
    have hlast : n.digits % 10 = 0 := by
      by_contra hlast
      exact hnormal (Or.inr hlast)
    have hne : n.digits ≠ 0 := by
      intro hzero
      have hn : n = ⟨n.digits, n.scale⟩ := rfl
      rw [hzero, hscale] at hn
      exact hnormal (Or.inl hn)
    exact ⟨hscale, hword, hne, hlast⟩
  · rintro ⟨hscale, hword, hne, hlast⟩
    have hint : n = .ofInt n.digits := by
      rw [Decimal.ofInt, ← hscale]
    refine ⟨?_, ?_⟩
    · obtain ⟨past, library, hsession, hreached⟩ := exists_session_ofInt hword
      rw [Value.ofInt, ← hint] at hreached
      exact ⟨past, library, hsession, hreached⟩
    · rintro (rfl | hlast')
      · exact hne rfl
      · exact hlast' hlast

/-- A year out of range, with all its digits. -/
def farYear : Decimal := .ofInt 1000000000000000000

lemma isDocument_one [Zones] : IsDocument (.number (.ofInt 1)) := by
  have hnormal : IsNormal (.ofInt 1) := Or.inr (by decide)
  have hdocument := isDocument_number (isHeld_ofInt (k := 1) (by decide))
  rwa [normalize_eq_self hnormal] at hdocument

lemma tryCall_date_farYear :
    tryCall "date" [.number farYear, .number (.ofInt 1), .number (.ofInt 1)] =
      .error (.outOfRange farYear) := by
  have hyear : farYear.halfWord = .error (.outOfRange farYear) :=
    whole_eq_error (by decide) (by decide) (value_ofInt _) (by decide)
  have hrun : Builtin.date.run [.number farYear, .number (.ofInt 1), .number (.ofInt 1)] =
      .error (.outOfRange farYear) := by
    show (do let year ← farYear.halfWord; _ : Except Fault Value) = _
    rw [hyear]
    rfl
  exact (tryCall_of_accepts (isNameOf_name .date) rfl).trans hrun

/-- The item of a range, taken out of its list and used as a year, is reported with all its digits. In
normal form the same number is reported as a power of ten. -/
theorem reached_not_isNormal_farYear :
    (∃ past, Session past ⟨.memory, [⟨"date", ["1000000000000000000", "1", "1"],
        "Value 1000000000000000000 is out of range."⟩], []⟩ ∧ Reached past (.number farYear)) ∧
      ¬IsNormal farYear ∧
      (Fault.outOfRange farYear.normalize).message = "Value 1e+18 is out of range." := by
  have hrange := session_rangeToList (k := 1000000000000000000) (by unfold IsWord; decide)
  have hrun : Builtin.min.run [.list [.number farYear]] = .ok (.number farYear) := rfl
  have hmin := hrange.run (List.forall_mem_singleton.mpr (Or.inr ⟨_, List.mem_cons_self, rfl⟩)) rfl hrun
  have hrecord : Diagnostic.ofFault "date" [.number farYear, .number (.ofInt 1), .number (.ofInt 1)]
      (.outOfRange farYear) = .ok ⟨"date", ["1000000000000000000", "1", "1"],
        "Value 1000000000000000000 is out of range."⟩ := by
    decide +kernel
  have hdate := hmin.fault (fun a ha => ?_) tryCall_date_farYear hrecord
  · have hnormal : ¬IsNormal farYear := by
      rintro (h | h)
      · exact absurd h (by decide)
      · exact h (by decide)
    exact ⟨⟨_, hdate, (reached_answer .self).later⟩, hnormal, by decide +kernel⟩
  · obtain rfl | ha := List.mem_cons.mp ha
    · exact Or.inr ⟨_, List.mem_cons_self, rfl⟩
    · have hone : a = .number (.ofInt 1) := by simpa using ha
      rw [hone]
      exact Or.inl isDocument_one

end Feel.Proofs
