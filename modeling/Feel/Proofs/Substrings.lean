import Feel.Operation.Texts
import Feel.Proofs.Positions

/-!
# Parts of a text

A part of a text starts at a position, counted in characters from the front or from the end, and has a given
length or extends to the end. Counted from the front it may start just behind the last character, where only
the empty part is. It is an error if the part does not lie within the text.
-/

namespace Feel.Proofs

/-- The call for the part of a text from a start, of a length if one is given. -/
def substringCall (s : String) (start : Decimal) : Option Decimal → Except Fault Value
  | none => Operation.substring [.string s, .number start]
  | some length => Operation.substring [.string s, .number start, .number length]

/-- In a text of so many characters, the part from this position on starts with the `i`-th one, or just
behind the last one. -/
def StartsAt (count : ℕ) (p : ℤ) (i : ℕ) : Prop :=
  (1 ≤ p ∧ p ≤ count + 1 ∧ i = p) ∨ (-count ≤ p ∧ p ≤ -1 ∧ i = count + p + 1)

/-- The part consists of so many characters of the text, from the `i`-th one on. -/
structure IsPiece (s part : String) (i count : ℕ) : Prop where
  within : i - 1 + count ≤ s.length
  length_eq : part.length = count
  getElem?_eq : ∀ j < count, part.toList[j]? = s.toList[i - 1 + j]?

/-! ### Starts -/

section StartsAt

variable {count i : ℕ} {p : ℤ}

lemma StartsAt.pos (h : StartsAt count p i) : 0 < i := by
  unfold StartsAt at h
  omega

lemma StartsAt.le (h : StartsAt count p i) : i ≤ count + 1 := by
  unfold StartsAt at h
  omega

lemma skipped?_of_startsAt (h : StartsAt count p i) : Operation.skipped? p count = some (i - 1) := by
  unfold StartsAt at h
  unfold Operation.skipped?
  split_ifs <;> grind

lemma skipped?_eq_none (h : ∀ i, ¬StartsAt count p i) : Operation.skipped? p count = none := by
  unfold Operation.skipped?
  split_ifs with hfront hback
  · exact absurd (Or.inl (by omega)) (h p.toNat)
  · exact absurd (Or.inr (by omega)) (h (count + p + 1).toNat)
  · rfl

end StartsAt

/-! ### Outcomes -/

section Call

variable {s : String} {p : ℤ} {m : Option ℤ} {start : Decimal} {length : Option Decimal}
  (hp : HoldsWord start p) (hm : Option.Rel HoldsWord length m)

include hp hm

lemma substringCall_eq : substringCall s start length =
    match Operation.skipped? p s.length, m with
    | none, _ => .error (.indexOutOfBounds p s.length)
    | some skip, none => .ok (.ofChars (s.toList.drop skip))
    | some skip, some m =>
      if m < 0 then .error (.badArgument (.negativeLength m))
      else if s.length < skip + m then .error (.indexOutOfBounds p s.length)
      else .ok (.ofChars ((s.toList.drop skip).take m.toNat)) := by
  cases hm with
  | none =>
    simp only [substringCall, Operation.substring, Operation.slice, anyNull, List.any_cons, List.any_nil,
      Value.isNull, Value.toText, Value.toNumber, hp.word, String.length_toList, Bind.bind, Except.bind,
      Bool.or_false, Bool.false_eq_true, if_false]
    cases Operation.skipped? p s.length <;> rfl
  | some hm =>
    simp only [substringCall, Operation.substring, Operation.slice, anyNull, List.any_cons, List.any_nil,
      Value.isNull, Value.toText, Value.toNumber, hp.word, hm.word, String.length_toList, Bind.bind, Except.bind,
      Bool.or_false, Bool.false_eq_true, if_false]
    cases Operation.skipped? p s.length <;> rfl

lemma substringCall_of_startsAt {i : ℕ} (hi : StartsAt s.length p i)
    (hlength : ∀ k ∈ m, 0 ≤ k ∧ k ≤ s.length + 1 - i) : substringCall s start length =
      .ok (.ofChars ((s.toList.drop (i - 1)).take (m.getD (s.length + 1 - i)).toNat)) := by
  have hpos := hi.pos
  rw [substringCall_eq hp hm, skipped?_of_startsAt hi]
  cases m with
  | none =>
    have hall : (s.toList.drop (i - 1)).length ≤ ((s.length : ℤ) + 1 - i).toNat := by
      rw [List.length_drop, String.length_toList]
      omega
    rw [Option.getD_none, List.take_of_length_le hall]
  | some k =>
    obtain ⟨hnonneg, hle⟩ := hlength k rfl
    dsimp only
    rw [if_neg (by omega), if_neg (by omega), Option.getD_some]

lemma startsAt_of_substringCall {v : Value} (h : substringCall s start length = .ok v) :
    ∃ i, StartsAt s.length p i ∧ ∀ k ∈ m, 0 ≤ k ∧ k ≤ s.length + 1 - i := by
  rw [substringCall_eq hp hm] at h
  by_cases hstart : ∃ i, StartsAt s.length p i
  · obtain ⟨i, hi⟩ := hstart
    refine ⟨i, hi, ?_⟩
    rintro k rfl
    have hpos := hi.pos
    rw [skipped?_of_startsAt hi] at h
    dsimp only at h
    split_ifs at h with hnegative hlong
    omega
  · rw [skipped?_eq_none (not_exists.mp hstart)] at h
    exact nomatch h

end Call

/-- Without a length the part has all characters that are left. -/
lemma substringCall_none {s : String} {p : ℤ} {start : Decimal} {i : ℕ} (hp : HoldsWord start p)
    (hi : StartsAt s.length p i) : substringCall s start none = .ok (.ofChars (s.toList.drop (i - 1))) := by
  rw [substringCall_eq hp .none, skipped?_of_startsAt hi]

lemma isPiece_take_drop {s : String} {i count : ℕ} (h : i - 1 + count ≤ s.length) :
    IsPiece s (String.ofList ((s.toList.drop (i - 1)).take count)) i count where
  within := h
  length_eq := by
    rw [← String.length_toList, String.toList_ofList, List.length_take, List.length_drop, String.length_toList]
    omega
  getElem?_eq j hj := by
    rw [String.toList_ofList, List.getElem?_take_of_lt hj, List.getElem?_drop]

lemma IsPiece.stringLength {s part : String} {i count : ℕ} (h : IsPiece s part i count) :
    Operation.stringLength [.string part] = .ok (.ofDecimal (.ofInt count)) := by
  rw [← h.length_eq, ← String.length_toList]
  rfl

/-- A part is given if it lies within the text, and then it has the characters from its start on, as many as
were asked for or all that are left. Counting the start from the other end makes no difference, and the first
characters and those that follow them make up the text. -/
theorem substring_isPiece (s : String) :
    (∀ (p : ℤ) (m : Option ℤ) (start : Decimal) (length : Option Decimal), HoldsWord start p →
      Option.Rel HoldsWord length m →
      ((∃ v, substringCall s start length = .ok v) ↔
        ∃ i, StartsAt s.length p i ∧ ∀ k ∈ m, 0 ≤ k ∧ k ≤ s.length + 1 - i) ∧
      ∀ i, StartsAt s.length p i → (∀ k ∈ m, 0 ≤ k ∧ k ≤ s.length + 1 - i) →
        ∃ (part : String) (count : ℕ), (count : ℤ) = m.getD (s.length + 1 - i) ∧
          substringCall s start length = .ok (.string part) ∧ IsPiece s part i count ∧
          Operation.stringLength [.string part] = .ok (.ofDecimal (.ofInt count))) ∧
    (∀ (k : ℕ) (back front : Decimal), 1 ≤ k → k ≤ s.length → HoldsWord back (-k) →
      HoldsWord front (s.length - k + 1) → substringCall s back none = substringCall s front none) ∧
    ∀ (j : ℕ) (one length next : Decimal), j ≤ s.length → HoldsWord one 1 → HoldsWord length j →
      HoldsWord next (j + 1) →
      ∃ first rest, substringCall s one (some length) = .ok (.string first) ∧
        substringCall s next none = .ok (.string rest) ∧ first ++ rest = s := by
  refine ⟨?_, ?_, ?_⟩
  · intro p m start length hp hm
    refine ⟨⟨?_, ?_⟩, ?_⟩
    · rintro ⟨v, hv⟩
      exact startsAt_of_substringCall hp hm hv
    · rintro ⟨i, hi, hlength⟩
      exact ⟨_, substringCall_of_startsAt hp hm hi hlength⟩
    · intro i hi hlength
      have hle := hi.le
      have hpos := hi.pos
      have hbounds : 0 ≤ m.getD (s.length + 1 - i) ∧ m.getD (s.length + 1 - i) ≤ s.length + 1 - i := by
        cases m with
        | none => exact ⟨by rw [Option.getD_none]; omega, le_rfl⟩
        | some k => exact hlength k rfl
      have hpiece : IsPiece s _ i (m.getD (s.length + 1 - i)).toNat := isPiece_take_drop (by omega)
      exact ⟨_, _, Int.toNat_of_nonneg hbounds.1, substringCall_of_startsAt hp hm hi hlength, hpiece,
        hpiece.stringLength⟩
  · intro k back front hk hle hback hfront
    have hi : StartsAt s.length (-k) (s.length - k + 1) := Or.inr (by omega)
    have hi' : StartsAt s.length (s.length - k + 1) (s.length - k + 1) := Or.inl (by omega)
    rw [substringCall_none hback hi, substringCall_none hfront hi']
  · intro j one length next hj hone hlength hnext
    have hi : StartsAt s.length 1 1 := Or.inl (by omega)
    have hi' : StartsAt s.length (j + 1) (j + 1) := Or.inl (by omega)
    refine ⟨_, _, substringCall_of_startsAt hone (.some hlength) hi ?_, substringCall_none hnext hi', ?_⟩
    · rintro k ⟨⟩
      omega
    · rw [← String.ofList_append, Option.getD_some, Int.toNat_natCast, Nat.sub_self, List.drop_zero,
        Nat.add_sub_cancel, List.take_append_drop, String.ofList_toList]

/-- Characters of one, two and four bytes. -/
def mixedText : String := "wörld😀"

/-- The last two characters, with their number and without, and the text cut in front of them. -/
theorem substring_isPiece_lastTwo :
    HoldsWord (.ofInt (-2)) (-2) ∧ Option.Rel HoldsWord (some (.ofInt 2)) (some 2) ∧
      StartsAt mixedText.length (-2) 5 ∧
      substringCall mixedText (.ofInt (-2)) (some (.ofInt 2)) = .ok (.string "d😀") ∧
      IsPiece mixedText "d😀" 5 2 ∧ HoldsWord (.ofInt 5) 5 ∧
      substringCall mixedText (.ofInt (-2)) none = substringCall mixedText (.ofInt 5) none ∧
      HoldsWord (.ofInt 1) 1 ∧ HoldsWord (.ofInt 4) 4 ∧
      ∃ first rest, substringCall mixedText (.ofInt 1) (some (.ofInt 4)) = .ok (.string first) ∧
        substringCall mixedText (.ofInt 5) none = .ok (.string rest) ∧ first ++ rest = mixedText := by
  obtain ⟨hparts, hends, hcut⟩ := substring_isPiece mixedText
  have hback : HoldsWord (.ofInt (-2)) (-2) := holdsWord_ofInt (by decide)
  have htwo : Option.Rel HoldsWord (some (.ofInt 2)) (some 2) := .some (holdsWord_ofInt (by decide))
  have hone : HoldsWord (.ofInt 1) 1 := holdsWord_ofInt (by decide)
  have hfour : HoldsWord (.ofInt 4) 4 := holdsWord_ofInt (by decide)
  have hfive : HoldsWord (.ofInt 5) 5 := holdsWord_ofInt (by decide)
  have hstart : StartsAt mixedText.length (-2) 5 := Or.inr (by decide)
  have hlength : ∀ k ∈ some (2 : ℤ), 0 ≤ k ∧ k ≤ mixedText.length + 1 - (5 : ℕ) := by
    rintro k ⟨⟩
    decide
  have hlast : String.ofList ((mixedText.toList.drop 4).take 2) = "d😀" := by decide
  have hcall : substringCall mixedText (.ofInt (-2)) (some (.ofInt 2)) = .ok (.string "d😀") :=
    hlast ▸ substringCall_of_startsAt hback htwo hstart hlength
  obtain ⟨-, hpart⟩ := hparts _ _ _ _ hback htwo
  obtain ⟨part, count, hcount, hpart, hpiece, -⟩ := hpart 5 hstart hlength
  obtain rfl := Value.string.inj (Except.ok.inj (hcall.symm.trans hpart))
  obtain rfl : count = 2 := Int.ofNat_inj.mp hcount
  exact ⟨hback, htwo, hstart, hcall, hpiece, hfive, hends 2 _ _ (by decide) (by decide) hback hfive, hone, hfour,
    hcut 4 _ _ _ (by decide) hone hfour hfive⟩

end Feel.Proofs
