import Feel.Proofs.Positions

/-!
# Sublists of a given length

A sublist of a given length fails if the list ends before it. The place reported then is counted on from the
start as it was given. For a start that counts from the front this is where the sublist would end, beyond
the list. For a start that counts from the end it is less by one more than the length of the list, so that
equal starts report different places, and a place within the list may be reported as out of bounds.
-/

namespace Feel.Proofs

/-- The call for so many items from a start. -/
def sublistCall (items : List Value) (start length : Decimal) : Except Fault Value :=
  Operation.sublist [.list items, .number start, .number length]

/-! ### Outcomes -/

section Call

variable {items : List Value} {p m : ℤ} {start length : Decimal} (hp : HoldsWord start p)
  (hm : HoldsWord length m)

include hp hm

lemma sublistCall_eq : sublistCall items start length =
    match Sequence.index? p items.length with
    | some skip =>
      if m ≤ 0 then .ok (.list [])
      else if items.length < skip + m then
        .error (.indexOutOfBounds (min (p + (m - 1)) Word.max64) items.length)
      else .ok (.list ((items.drop skip).take m.toNat))
    | none => .ok (.list []) := by
  have hstart : Operation.wholeOf (.number start) = .ok p := hp.word
  have hlength : Operation.wholeOf (.number length) = .ok m := hm.word
  simp only [sublistCall, Operation.sublist, anyNull, List.any_cons, List.any_nil, Value.isNull,
    Operation.itemsOrNone, Value.toItems, hstart, hlength, Bind.bind, Except.bind, Bool.or_false,
    Bool.false_eq_true, if_false, Operation.sublistFrom]
  cases Sequence.index? p items.length <;> rfl

/-- A sublist that starts within the list is given unless the list ends before. -/
lemma sublistCall_of_addresses {i : ℕ} (hplace : Addresses items.length p i) :
    sublistCall items start length =
      if items.length < i - 1 + m then
        .error (.indexOutOfBounds (min (p + (m - 1)) Word.max64) items.length)
      else .ok (.list ((items.drop (i - 1)).take m.toNat)) := by
  have hpos := hplace.pos
  have hle := hplace.le_length
  have hskip : ((i - 1 : ℕ) : ℤ) = i - 1 := by omega
  rw [sublistCall_eq hp hm, index?_of_addresses hplace]
  dsimp only
  rw [hskip]
  split_ifs with hnone hlong
  · omega
  · rw [Int.toNat_of_nonpos hnone, List.take_zero]
  · rfl
  · rfl

/-- The last `k` items hold no sublist that is longer. -/
lemma sublistCall_last {k : ℕ} (hk : k ≤ items.length)
    (hplace : Addresses items.length p (items.length - k + 1)) :
    sublistCall items start length =
      if k < m then .error (.indexOutOfBounds (min (p + (m - 1)) Word.max64) items.length)
      else .ok (.list ((items.drop (items.length - k)).take m.toNat)) := by
  have hlong : (items.length : ℤ) < (items.length - k + 1 : ℕ) - 1 + m ↔ k < m := by omega
  rw [sublistCall_of_addresses hp hm hplace, Nat.add_sub_cancel]
  simp only [hlong]

/-- A reported place is counted on from the start, and does not exceed a word. -/
lemma eq_of_sublistCall_eq_error {index : ℤ} {bound : ℕ}
    (h : sublistCall items start length = .error (.indexOutOfBounds index bound)) :
    bound = items.length ∧ index = min (p + (m - 1)) Word.max64 ∧
      ∃ i, Addresses items.length p i ∧ items.length < i - 1 + m := by
  by_cases hplace : ∃ i, Addresses items.length p i
  · obtain ⟨i, hi⟩ := hplace
    rw [sublistCall_of_addresses hp hm hi] at h
    split_ifs at h with hlong
    obtain ⟨rfl, rfl⟩ := Fault.indexOutOfBounds.inj (Except.error.inj h)
    exact ⟨rfl, rfl, i, hi, hlong⟩
  · rw [sublistCall_eq hp hm, index?_eq_none (not_exists.mp hplace)] at h
    exact nomatch h

end Call

/-! ### Starts from either end -/

section EitherEnd

variable {items : List Value} {m : ℤ} {start length : Decimal} (hm : HoldsWord length m)

include hm

/-- Counted from the end, a word's length leads to a place that is a word, too. -/
lemma sublistCall_back {k : ℕ} (hk : 1 ≤ k) (hle : k ≤ items.length) (hp : HoldsWord start (-k)) :
    sublistCall items start length =
      if k < m then .error (.indexOutOfBounds (m - k - 1) items.length)
      else .ok (.list ((items.drop (items.length - k)).take m.toNat)) := by
  have hword := hm.isWord
  unfold IsWord at hword
  have hplace : min (-k + (m - 1)) (Word.max64 : ℤ) = m - k - 1 := by omega
  rw [sublistCall_last hp hm hle (Or.inr (by omega)), hplace]

lemma sublistCall_front {k : ℕ} (hk : 1 ≤ k) (hle : k ≤ items.length)
    (hp : HoldsWord start (items.length - k + 1)) :
    sublistCall items start length =
      if k < m then .error (.indexOutOfBounds (min (items.length - k + m) Word.max64) items.length)
      else .ok (.list ((items.drop (items.length - k)).take m.toNat)) := by
  have hplace : (items.length - k + 1 : ℤ) + (m - 1) = items.length - k + m := by omega
  rw [sublistCall_last hp hm hle (Or.inl (by omega)), hplace]

/-- The first items and those that follow them make up the list, also if none follow. -/
lemma sublistCall_append_sublist {next : Decimal} (hpos : 1 ≤ m) (hle : m ≤ items.length)
    (hp : HoldsWord start 1) (hnext : HoldsWord next (m + 1)) :
    ∃ first rest, sublistCall items start length = .ok (.list first) ∧
      Operation.sublist [.list items, .number next] = .ok (.list rest) ∧ first ++ rest = items := by
  refine ⟨items.take m.toNat, items.drop m.toNat, ?_, ?_, List.take_append_drop _ _⟩
  · have hplace : Addresses items.length 1 1 := Or.inl (by omega)
    rw [sublistCall_of_addresses hp hm hplace, if_neg (by omega)]
    rfl
  · rw [sublist_eq rfl hnext.word]
    obtain hlt | heq := lt_or_eq_of_le hle
    · have hplace : Addresses items.length (m + 1) (m.toNat + 1) := Or.inl (by omega)
      rw [index?_of_addresses hplace, Nat.add_sub_cancel]
    · have hnone (i : ℕ) : ¬Addresses items.length (m + 1) i := by
        unfold Addresses
        omega
      rw [index?_eq_none hnone, List.drop_of_length_le (by omega)]

end EitherEnd

/-- A start counted from the end gives the same items as the one counted from the front at which they
start. It fails for the same lengths, but reports another place. Sublists have the length asked for, and
what follows the first items completes them to the list. A failure reports a place beyond the list if the
start is counted from the front, but from the end only if the start and the length add up to more than one
beyond the list. -/
theorem sublist_fromEnd_iff (items : List Value) :
    (∀ (k : ℕ) (m : ℤ) (back front length : Decimal), 1 ≤ k → k ≤ items.length → HoldsWord back (-k) →
      HoldsWord front (items.length - k + 1) → HoldsWord length m →
      (sublistCall items back length = sublistCall items front length ↔ m ≤ k) ∧
        (m ≤ k → ∃ found, sublistCall items back length = .ok (.list found) ∧ found.length = m.toNat) ∧
        (k < m →
          sublistCall items back length = .error (.indexOutOfBounds (m - k - 1) items.length) ∧
          sublistCall items front length =
            .error (.indexOutOfBounds (min (items.length - k + m) Word.max64) items.length))) ∧
    (∀ (m : ℤ) (one length next : Decimal), 1 ≤ m → m ≤ items.length → HoldsWord one 1 →
      HoldsWord length m → HoldsWord next (m + 1) →
      ∃ first rest, sublistCall items one length = .ok (.list first) ∧
        Operation.sublist [.list items, .number next] = .ok (.list rest) ∧ first ++ rest = items) ∧
    ∀ (p m : ℤ) (start length : Decimal) (index : ℤ) (bound : ℕ), HoldsWord start p → HoldsWord length m →
      sublistCall items start length = .error (.indexOutOfBounds index bound) →
      bound = items.length ∧ (0 < p → items.length < Word.max64 → items.length < index) ∧
        (p ≤ 0 → (items.length < index ↔ items.length + 1 < p + m)) := by
  refine ⟨fun k m back front length hk hle hback hfront hlength => ?_, ?_, ?_⟩
  · rw [sublistCall_back hlength hk hle hback, sublistCall_front hlength hk hle hfront]
    obtain hshort | hlong := le_or_gt m k
    · rw [if_neg hshort.not_gt, if_neg hshort.not_gt]
      refine ⟨iff_of_true rfl hshort, fun _ => ⟨_, rfl, ?_⟩, fun hlong => absurd hlong hshort.not_gt⟩
      rw [List.length_take, List.length_drop]
      omega
    · rw [if_pos hlong, if_pos hlong]
      have hword := hlength.isWord
      unfold IsWord at hword
      refine ⟨iff_of_false ?_ hlong.not_ge, fun hshort => absurd hlong hshort.not_gt, fun _ => ⟨rfl, rfl⟩⟩
      rw [Except.error.injEq, Fault.indexOutOfBounds.injEq]
      omega
  · intro m one length next hm hle hone hlength hnext
    exact sublistCall_append_sublist hlength hm hle hone hnext
  · intro p m start length index bound hstart hlength herror
    obtain ⟨rfl, rfl, i, hplace, hlong⟩ := eq_of_sublistCall_eq_error hstart hlength herror
    have hword := hlength.isWord
    unfold Addresses at hplace
    unfold IsWord at hword
    exact ⟨rfl, by omega, by omega⟩

/-- The last two of three items are the same from either end, but there are not three. -/
theorem sublist_fromEnd_lastTwo :
    HoldsWord (.ofInt (-2)) (-2) ∧ HoldsWord (.ofInt 2) 2 ∧ HoldsWord (.ofInt 3) 3 ∧
      sublistCall threeItems (.ofInt (-2)) (.ofInt 2) = sublistCall threeItems (.ofInt 2) (.ofInt 2) ∧
      sublistCall threeItems (.ofInt (-2)) (.ofInt 3) = .error (.indexOutOfBounds 0 3) ∧
      sublistCall threeItems (.ofInt 2) (.ofInt 3) = .error (.indexOutOfBounds 4 3) := by
  have hback : HoldsWord (.ofInt (-2)) (-2) := holdsWord_ofInt (by decide)
  have htwo : HoldsWord (.ofInt 2) 2 := holdsWord_ofInt (by decide)
  have hthree : HoldsWord (.ofInt 3) 3 := holdsWord_ofInt (by decide)
  obtain ⟨hcalls, -⟩ := sublist_fromEnd_iff threeItems
  obtain ⟨hsame, -⟩ := hcalls 2 2 _ _ _ (by decide) (by decide) hback htwo htwo
  obtain ⟨-, -, hfails⟩ := hcalls 2 3 _ _ _ (by decide) (by decide) hback htwo hthree
  obtain ⟨hbackward, hforward⟩ := hfails (by decide)
  exact ⟨hback, htwo, hthree, hsame.mpr (by decide), hbackward, hforward⟩

/-- From the last of three items, the first one is reported as out of bounds if three are asked for. -/
theorem sublist_reports_first :
    Addresses threeItems.length (-1) 3 ∧ Addresses threeItems.length 3 3 ∧
      sublistCall threeItems (.ofInt (-1)) (.ofInt 3) = .error (.indexOutOfBounds 1 3) ∧
      sublistCall threeItems (.ofInt 3) (.ofInt 3) = .error (.indexOutOfBounds 5 3) := by
  have hlast : HoldsWord (.ofInt (-1)) (-1) := holdsWord_ofInt (by decide)
  have hthree : HoldsWord (.ofInt 3) 3 := holdsWord_ofInt (by decide)
  have hback : Addresses threeItems.length (-1) 3 := Or.inr (by decide)
  have hfront : Addresses threeItems.length 3 3 := Or.inl (by decide)
  refine ⟨hback, hfront, ?_, ?_⟩
  · rw [sublistCall_of_addresses hlast hthree hback]
    exact if_pos (by decide)
  · rw [sublistCall_of_addresses hthree hthree hfront]
    exact if_pos (by decide)

end Feel.Proofs
