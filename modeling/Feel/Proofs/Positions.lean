import Feel.Proofs.WholeRanges

/-!
# Positions

A position counts from the front of a list or, if it is negative, from the end. The functions that take one
agree on the item that it stands for, and each has its own answer if there is no such item. Reversing the
list and the sign of the position leads to the same item, and removing an inserted item undoes the
insertion.
-/

namespace Feel.Proofs

/-- The decimal holds this word of 64 bits, in whatever form. -/
structure HoldsWord (n : Decimal) (k : ℤ) : Prop where
  value_eq : value n = k
  isWord : IsWord k

/-- The position is that of the `i`-th of so many items, the first of which is number one. -/
def Addresses (length : ℕ) (p : ℤ) (i : ℕ) : Prop :=
  (1 ≤ p ∧ p ≤ length ∧ i = p) ∨ (-length ≤ p ∧ p ≤ -1 ∧ i = length + p + 1)

/-- The longer list has the item at the `i`-th place, and the other items in order around it. -/
structure IsInsertion (items longer : List Value) (i : ℕ) (item : Value) : Prop where
  getElem?_eq : longer[i - 1]? = some item
  eraseIdx_eq : longer.eraseIdx (i - 1) = items

lemma holdsWord_ofInt {k : ℤ} (hk : IsWord k) : HoldsWord (.ofInt k) k := ⟨value_ofInt k, hk⟩

lemma HoldsWord.word {n : Decimal} {k : ℤ} (h : HoldsWord n k) : n.word = .ok k :=
  (word_eq_ok_iff n k).mpr ⟨h.value_eq, h.isWord⟩

/-! ### Places -/

section Addresses

variable {length i : ℕ} {p : ℤ}

lemma Addresses.pos (h : Addresses length p i) : 0 < i := by
  unfold Addresses at h
  omega

lemma Addresses.le_length (h : Addresses length p i) : i ≤ length := by
  unfold Addresses at h
  omega

/-- Seen from the other end, the position has the opposite sign. -/
lemma Addresses.neg (h : Addresses length p i) : Addresses length (-p) (length + 1 - i) := by
  unfold Addresses at *
  omega

lemma index?_of_addresses (h : Addresses length p i) : Sequence.index? p length = some (i - 1) := by
  unfold Addresses at h
  unfold Sequence.index?
  split_ifs <;> grind

lemma index?_eq_none (h : ∀ i, ¬Addresses length p i) : Sequence.index? p length = none := by
  unfold Sequence.index?
  split_ifs with hfront hback
  · exact absurd (Or.inl (by omega)) (h p.toNat)
  · exact absurd (Or.inr (by omega)) (h (length + p + 1).toNat)
  · rfl

end Addresses

/-! ### Functions of a position -/

section Operations

variable {v : Value} {items : List Value} {n : Decimal} {p : ℤ}

lemma elementAt_eq (hp : n.word = .ok p) : Operation.elementAt [.list items, .number n] =
    match (Sequence.index? p items.length).bind (items[·]?) with
    | some item => .ok item
    | none => .error (.indexOutOfBounds p items.length) := by
  have hposition : Operation.wholeOf (.number n) = .ok p := hp
  simp only [Operation.elementAt, anyNull, List.any_cons, List.any_nil, Value.isNull, Value.toItems,
    hposition, Bind.bind, Except.bind, Bool.or_false, Bool.false_eq_true, if_false]
  rfl

variable (hv : Operation.itemsOrNone v = .ok items) (hp : n.word = .ok p)

include hv hp

lemma sublist_eq : Operation.sublist [v, .number n] =
    match Sequence.index? p items.length with
    | some skip => .ok (.list (items.drop skip))
    | none => .ok (.list []) := by
  have hposition : Operation.wholeOf (.number n) = .ok p := hp
  simp only [Operation.sublist, anyNull, List.any_cons, List.any_nil, Value.isNull, hv, hposition, Bind.bind,
    Except.bind, Bool.or_false, Bool.false_eq_true, if_false, Operation.sublistFrom]
  cases Sequence.index? p items.length <;> rfl

lemma insertBefore_eq (item : Value) : Operation.insertBefore [v, .number n, item] =
    match Sequence.index? p items.length with
    | some skip => .ok (.list (items.take skip ++ item :: items.drop skip))
    | none => .ok (.list items) := by
  have hposition : Operation.wholeOf (.number n) = .ok p := hp
  simp only [Operation.insertBefore, Value.isNull, hv, hposition, Bind.bind, Except.bind, Bool.false_eq_true,
    if_false]
  rfl

lemma remove_eq : Operation.remove [v, .number n] =
    if 1 ≤ p ∧ p ≤ items.length then .ok (.list (items.eraseIdx (p - 1).toNat))
    else .error (.indexOutOfBounds p items.length) := by
  have hposition : Operation.wholeOf (.number n) = .ok p := hp
  simp only [Operation.remove, Value.isNull, hv, hposition, Bind.bind, Except.bind, Bool.false_eq_true,
    if_false]
  rfl

end Operations

/-! ### The item at a place -/

section Place

variable {items : List Value} {i : ℕ} {p : ℤ} {position : Decimal} (hp : HoldsWord position p)
  (hplace : Addresses items.length p i)

include hp hplace

lemma elementAt_of_addresses : ∃ item, items[i - 1]? = some item ∧
    Operation.elementAt [.list items, .number position] = .ok item := by
  have hlt : i - 1 < items.length := by
    have hpos := hplace.pos
    have hle := hplace.le_length
    omega
  refine ⟨items[i - 1], List.getElem?_eq_getElem hlt, ?_⟩
  rw [elementAt_eq hp.word, index?_of_addresses hplace, Option.bind_some, List.getElem?_eq_getElem hlt]

/-- From the other end of the reversed list, the position leads to the same item. -/
lemma elementAt_reverse {opposite : Decimal} (hopposite : HoldsWord opposite (-p)) :
    Operation.elementAt [.list items.reverse, .number opposite] =
      Operation.elementAt [.list items, .number position] := by
  have hpos := hplace.pos
  have hle := hplace.le_length
  have hneg : Addresses items.reverse.length (-p) (items.length + 1 - i) := by
    rw [List.length_reverse]
    exact hplace.neg
  have hitem : items.reverse[items.length + 1 - i - 1]? = items[i - 1]? := by
    rw [List.getElem?_reverse (by omega)]
    congr 1
    omega
  rw [elementAt_eq hopposite.word, elementAt_eq hp.word, index?_of_addresses hneg, index?_of_addresses hplace,
    Option.bind_some, Option.bind_some, hitem, List.length_reverse]
  obtain ⟨item, hsome, -⟩ := elementAt_of_addresses hp hplace
  rw [hsome]

/-- Only positions that count from the front can be removed. -/
lemma remove_of_addresses : Operation.remove [.list items, .number position] =
    if 0 < p then .ok (.list (items.eraseIdx (i - 1))) else .error (.indexOutOfBounds p items.length) := by
  unfold Addresses at hplace
  rw [remove_eq rfl hp.word]
  split_ifs with hwithin hpos hpos
  · have hindex : (p - 1).toNat = i - 1 := by omega
    rw [hindex]
  · omega
  · omega
  · rfl

lemma insertBefore_of_addresses (item : Value) : ∃ longer,
    Operation.insertBefore [.list items, .number position, item] = .ok (.list longer) ∧
      IsInsertion items longer i item := by
  have hle := hplace.le_length
  have hlength : (items.take (i - 1)).length = i - 1 := by
    rw [List.length_take]
    omega
  refine ⟨items.take (i - 1) ++ item :: items.drop (i - 1), ?_, ?_, ?_⟩
  · rw [insertBefore_eq rfl hp.word, index?_of_addresses hplace]
  · rw [List.getElem?_append_right hlength.le, hlength, Nat.sub_self]
    rfl
  · rw [List.eraseIdx_append_of_length_le hlength.le, hlength, Nat.sub_self]
    exact List.take_append_drop (i - 1) items

end Place

/-- Removing an inserted item gives the list back. -/
lemma IsInsertion.remove {items longer : List Value} {i : ℕ} {item : Value} {place : Decimal}
    (h : IsInsertion items longer i item) (hi : 0 < i) (hplace : HoldsWord place i) :
    Operation.remove [.list longer, .number place] = .ok (.list items) := by
  obtain ⟨hlt, -⟩ := List.getElem?_eq_some_iff.mp h.getElem?_eq
  have hindex : ((i : ℤ) - 1).toNat = i - 1 := by omega
  rw [remove_eq rfl hplace.word, if_pos (by omega), hindex, h.eraseIdx_eq]

/-- All functions that take a position agree on the item that it stands for, except that none is removed at
a position counted from the end. If there is no item, it cannot be had or removed, nothing follows, and
nothing is inserted. -/
theorem positions_agree {items : List Value} {p : ℤ} {position : Decimal} (hp : HoldsWord position p)
    (item : Value) :
    (∀ i, Addresses items.length p i →
      (∃ found, items[i - 1]? = some found ∧
        Operation.elementAt [.list items, .number position] = .ok found ∧
        ∃ reversed, Operation.reverse [.list items] = .ok reversed ∧
          ∀ opposite, HoldsWord opposite (-p) →
            Operation.elementAt [reversed, .number opposite] = .ok found) ∧
      Operation.sublist [.list items, .number position] = .ok (.list (items.drop (i - 1))) ∧
      (Operation.remove [.list items, .number position] =
        if 0 < p then .ok (.list (items.eraseIdx (i - 1)))
        else .error (.indexOutOfBounds p items.length)) ∧
      ∃ longer, Operation.insertBefore [.list items, .number position, item] = .ok (.list longer) ∧
        IsInsertion items longer i item ∧
        ∀ place, HoldsWord place i → Operation.remove [.list longer, .number place] = .ok (.list items)) ∧
    ((∀ i, ¬Addresses items.length p i) →
      Operation.elementAt [.list items, .number position] = .error (.indexOutOfBounds p items.length) ∧
      Operation.remove [.list items, .number position] = .error (.indexOutOfBounds p items.length) ∧
      Operation.sublist [.list items, .number position] = .ok (.list []) ∧
      Operation.insertBefore [.list items, .number position, item] = .ok (.list items)) := by
  constructor
  · intro i hplace
    obtain ⟨found, hsome, hfound⟩ := elementAt_of_addresses hp hplace
    obtain ⟨longer, hlonger, hinserted⟩ := insertBefore_of_addresses hp hplace item
    refine ⟨⟨found, hsome, hfound, _, rfl, fun opposite hopposite => ?_⟩, ?_, remove_of_addresses hp hplace,
      longer, hlonger, hinserted, fun place => hinserted.remove hplace.pos⟩
    · rw [elementAt_reverse hp hplace hopposite, hfound]
    · rw [sublist_eq rfl hp.word, index?_of_addresses hplace]
  · intro hnone
    have hindex := index?_eq_none hnone
    have hfront : ¬(1 ≤ p ∧ p ≤ items.length) := fun h => hnone p.toNat (Or.inl (by omega))
    rw [elementAt_eq hp.word, remove_eq rfl hp.word, sublist_eq rfl hp.word, insertBefore_eq rfl hp.word, hindex,
      if_neg hfront]
    exact ⟨rfl, rfl, rfl, rfl⟩

/-- Three items, the first of which is unknown. -/
def threeItems : List Value := [.null, .string "b", .string "c"]

/-- The last of three items and the place before it, with a position held as `-1.0`. -/
theorem positions_agree_last :
    HoldsWord ⟨-10, 1⟩ (-1) ∧ Addresses threeItems.length (-1) 3 ∧
      Operation.elementAt [.list threeItems, .number ⟨-10, 1⟩] = .ok (.string "c") ∧
      Operation.sublist [.list threeItems, .number ⟨-10, 1⟩] = .ok (.list [.string "c"]) ∧
      Operation.remove [.list threeItems, .number ⟨-10, 1⟩] = .error (.indexOutOfBounds (-1) 3) ∧
      ∃ longer, Operation.insertBefore [.list threeItems, .number ⟨-10, 1⟩, .boolean true] =
          .ok (.list longer) ∧ IsInsertion threeItems longer 3 (.boolean true) := by
  have hp : HoldsWord ⟨-10, 1⟩ (-1) := ⟨by norm_num [value], by decide⟩
  have hplace : Addresses threeItems.length (-1) 3 := Or.inr (by decide)
  obtain ⟨⟨found, hsome, hfound, -⟩, hsuffix, hremove, longer, hlonger, hinserted, -⟩ :=
    (positions_agree hp (.boolean true)).1 3 hplace
  obtain rfl := Option.some.inj hsome
  exact ⟨hp, hplace, hfound, hsuffix, hremove, longer, hlonger, hinserted⟩

end Feel.Proofs
