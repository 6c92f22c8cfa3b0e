import Feel.Proofs.DistinctValues
import Feel.Proofs.Positions

/-!
# Positions of equal items

The positions of the items that equal a value are listed in ascending order, counted from one. Such an item
is found by its position, a list contains a value if there is any position, and repeated items do not matter
for that. In the reversed list the positions are counted from the other end.
-/

namespace Feel.Proofs

/-- The item at this position equals the value. The first item is number one. -/
def EqualAt (items : List Value) (x : Value) (p : ℤ) : Prop :=
  ∃ (i : ℕ) (found : Value), p = i + 1 ∧ items[i]? = some found ∧ found == x

/-- Positions as a list of numbers. -/
def positionList (positions : List ℤ) : Value := .list (positions.map fun p => .ofDecimal (.ofInt p))

/-! ### Enumerations -/

section Enumerates

variable {items : List ℤ} {P Q : ℤ → Prop}

/-- Counted from the other end, the order is reversed. -/
lemma Enumerates.mirror (h : Enumerates items P) (c : ℤ) (hQ : ∀ k, Q k ↔ P (c - k)) :
    Enumerates (items.map (c - ·)).reverse Q where
  mem_iff k := by
    rw [List.mem_reverse, List.mem_map, hQ, ← h.mem_iff]
    exact ⟨fun ⟨j, hj, hk⟩ => by rwa [← hk, sub_sub_cancel], fun hk => ⟨c - k, hk, sub_sub_cancel c k⟩⟩
  ascending := by
    rw [List.pairwise_reverse, List.pairwise_map]
    exact h.ascending.imp fun hlt => by omega

lemma Enumerates.ne_nil_iff (h : Enumerates items P) : items ≠ [] ↔ ∃ k, P k := by
  constructor
  · intro hne
    obtain ⟨k, hk⟩ := List.exists_mem_of_ne_nil items hne
    exact ⟨k, (h.mem_iff k).mp hk⟩
  · rintro ⟨k, hk⟩
    exact List.ne_nil_of_mem ((h.mem_iff k).mpr hk)

lemma Enumerates.length_le_one (h : Enumerates items P) (hunique : ∀ j k, P j → P k → ¬j < k) :
    items.length ≤ 1 := by
  match items, h with
  | [], _ => exact Nat.zero_le 1
  | [_], _ => exact le_rfl
  | j :: k :: rest, h =>
    have hlt : j < k := List.rel_of_pairwise_cons h.ascending List.mem_cons_self
    exact absurd hlt (hunique j k ((h.mem_iff j).mp (by simp)) ((h.mem_iff k).mp (by simp)))

end Enumerates

/-! ### Items found one after the other -/

section PositionsOf

variable {items : List Value} {x : Value}

lemma mem_positionsOf_go {next p : ℕ} : p ∈ Sequence.positionsOf.go x next items ↔
    ∃ i found, p = next + i ∧ items[i]? = some found ∧ found == x := by
  induction items generalizing next with
  | nil => simp [Sequence.positionsOf.go]
  | cons v rest ih =>
    have hhead : (∃ found, p = next + 0 ∧ (v :: rest)[0]? = some found ∧ found == x) ↔ p = next ∧ v == x := by
      simp
    have hrest (i : ℕ) : (∃ found, p = next + (i + 1) ∧ (v :: rest)[i + 1]? = some found ∧ found == x) ↔
        ∃ found, p = next + 1 + i ∧ rest[i]? = some found ∧ found == x := by
      rw [List.getElem?_cons_succ, Nat.add_right_comm, Nat.add_assoc]
    rw [← Nat.or_exists_add_one, hhead, exists_congr hrest, ← ih, Sequence.positionsOf.go]
    split_ifs with hv <;> simp [hv]

lemma positionsOf_go_ascending (next : ℕ) : (Sequence.positionsOf.go x next items).Pairwise (· < ·) := by
  induction items generalizing next with
  | nil => exact .nil
  | cons v rest ih =>
    rw [Sequence.positionsOf.go]
    split_ifs
    · refine .cons (fun p hp => ?_) (ih (next + 1))
      obtain ⟨i, found, rfl, -⟩ := mem_positionsOf_go.mp hp
      omega
    · exact ih (next + 1)

lemma enumerates_positionsOf (items : List Value) (x : Value) :
    Enumerates ((Sequence.positionsOf x items).map (↑)) (EqualAt items x) where
  mem_iff p := by
    simp only [Sequence.positionsOf, List.mem_map, mem_positionsOf_go, EqualAt]
    constructor
    · rintro ⟨-, ⟨i, found, rfl, hfound⟩, rfl⟩
      exact ⟨i, found, by push_cast; ring, hfound⟩
    · rintro ⟨i, found, rfl, hfound⟩
      exact ⟨1 + i, ⟨i, found, rfl, hfound⟩, by push_cast; ring⟩
  ascending := by
    rw [List.pairwise_map]
    exact (positionsOf_go_ascending 1).imp fun hlt => by exact_mod_cast hlt

lemma indexOf_eq (items : List Value) (x : Value) : Operation.indexOf [.list items, x] =
    .ok (positionList ((Sequence.positionsOf x items).map (↑))) := by
  rw [positionList, List.map_map]
  rfl

end PositionsOf

/-! ### Equal items -/

section EqualAt

variable {items : List Value} {x : Value} {p q : ℤ}

lemma equalAt_reverse : EqualAt items.reverse x p ↔ EqualAt items x (items.length + 1 - p) := by
  constructor
  · rintro ⟨i, found, rfl, hfound, hequal⟩
    have hlt : i < items.length := by
      have hlt := (List.getElem?_eq_some_iff.mp hfound).1
      rwa [List.length_reverse] at hlt
    rw [List.getElem?_reverse hlt] at hfound
    exact ⟨items.length - 1 - i, found, by omega, hfound, hequal⟩
  · rintro ⟨i, found, hp, hfound, hequal⟩
    have hlt : i < items.length := (List.getElem?_eq_some_iff.mp hfound).1
    refine ⟨items.length - 1 - i, found, by omega, ?_, hequal⟩
    rw [List.getElem?_reverse (by omega), ← hfound]
    congr 1
    omega

/-- An item at a position that counts from the front is found there. -/
lemma equalAt_iff_elementAt {position : Decimal} (hp : HoldsWord position p) (hpos : 1 ≤ p) :
    EqualAt items x p ↔
      ∃ found, Operation.elementAt [.list items, .number position] = .ok found ∧ found == x := by
  by_cases hle : p ≤ items.length
  · have hplace : Addresses items.length p p.toNat := Or.inl (by omega)
    obtain ⟨item, hitem, hcall⟩ := elementAt_of_addresses hp hplace
    rw [hcall]
    constructor
    · rintro ⟨i, found, rfl, hfound, hequal⟩
      have hindex : ((i : ℤ) + 1).toNat - 1 = i := by omega
      rw [hindex, hfound] at hitem
      exact ⟨item, rfl, Option.some.inj hitem ▸ hequal⟩
    · rintro ⟨found, hfound, hequal⟩
      exact ⟨p.toNat - 1, item, by omega, hitem, Except.ok.inj hfound ▸ hequal⟩
  · have hnone (i : ℕ) : ¬Addresses items.length p i := by
      unfold Addresses
      omega
    rw [elementAt_eq hp.word, index?_eq_none hnone]
    refine iff_of_false ?_ (fun ⟨_, hfound, _⟩ => nomatch hfound)
    rintro ⟨i, found, rfl, hfound, -⟩
    have hlt := (List.getElem?_eq_some_iff.mp hfound).1
    omega

variable (hitems : HasUniqueNames (.list items)) (hx : HasUniqueNames x)

include hitems hx

lemma contains_iff_exists_equalAt : items.contains x = true ↔ ∃ p, EqualAt items x p := by
  rw [hasUniqueNames_list] at hitems
  rw [contains_iff]
  constructor
  · rintro ⟨v, hv, hequal⟩
    obtain ⟨i, hi⟩ := List.mem_iff_getElem?.mp hv
    exact ⟨i + 1, i, v, rfl, hi, value_beq_symm hx (hitems v hv) hequal⟩
  · rintro ⟨-, i, v, -, hi, hequal⟩
    have hv := List.mem_of_getElem? hi
    exact ⟨v, hv, value_beq_symm (hitems v hv) hx hequal⟩

/-- Of distinct items at most one equals the value. -/
lemma not_lt_of_equalAt_distinct (hp : EqualAt (Sequence.distinct items) x p)
    (hq : EqualAt (Sequence.distinct items) x q) : ¬p < q := by
  obtain ⟨i, v, rfl, hv, hvx⟩ := hp
  obtain ⟨j, w, rfl, hw, hwx⟩ := hq
  obtain ⟨hi, rfl⟩ := List.getElem?_eq_some_iff.mp hv
  obtain ⟨hj, rfl⟩ := List.getElem?_eq_some_iff.mp hw
  intro hlt
  obtain ⟨hne, -⟩ := List.pairwise_iff_getElem.mp (pairwise_distinct hitems) i j hi hj (by omega)
  have hunique : HasUniqueNames (Sequence.distinct items)[j] :=
    hasUniqueNames_list.mp hitems _ (mem_of_mem_distinctAfter (List.getElem_mem hj))
  exact hne (value_beq_trans hvx (value_beq_symm hunique hx hwx))

end EqualAt

/-- The positions of the items that equal a value are listed in ascending order, and elements found at these
positions, and only those, equal the value. A list contains a value if there is such a position, and then the
list of its distinct values contains it, too, at one position. In the reversed list positions are counted from
the other end. All this holds for values in which no context binds a name twice. -/
theorem indexOf_enumerates {items : List Value} {x : Value} (hitems : HasUniqueNames (.list items))
    (hx : HasUniqueNames x) :
    ∃ positions : List ℤ, Operation.indexOf [.list items, x] = .ok (positionList positions) ∧
      Enumerates positions (EqualAt items x) ∧
      (∀ p position, 1 ≤ p → HoldsWord position p → (p ∈ positions ↔
        ∃ found, Operation.elementAt [.list items, .number position] = .ok found ∧ found == x)) ∧
      Operation.listContains [.list items, x] = .ok (.boolean (decide (positions ≠ []))) ∧
      (∃ kept few, Operation.distinctValues [.list items] = .ok (.list kept) ∧
        Operation.listContains [.list kept, x] = Operation.listContains [.list items, x] ∧
        Operation.indexOf [.list kept, x] = .ok (positionList few) ∧ few.length ≤ 1) ∧
      ∃ backward, Operation.reverse [.list items] = .ok backward ∧
        Operation.indexOf [backward, x] =
          .ok (positionList (positions.map fun p : ℤ => items.length + 1 - p).reverse) := by
  have hpositions := enumerates_positionsOf items x
  refine ⟨_, indexOf_eq items x, hpositions, ?_, ?_, ?_, _, rfl, ?_⟩
  · intro p position hpos hp
    rw [hpositions.mem_iff, equalAt_iff_elementAt hp hpos]
  · have hcontains : items.contains x = decide ((Sequence.positionsOf x items).map (Nat.cast (R := ℤ)) ≠ []) := by
      rw [Bool.eq_iff_iff, contains_iff_exists_equalAt hitems hx, decide_eq_true_iff, hpositions.ne_nil_iff]
    rw [← hcontains]
    rfl
  · have hfew := enumerates_positionsOf (Sequence.distinct items) x
    refine ⟨_, _, rfl, ?_, indexOf_eq _ x, hfew.length_le_one ?_⟩
    · exact congrArg (fun found => Except.ok (Value.boolean found)) contains_distinct
    · intro p q hp hq
      exact not_lt_of_equalAt_distinct hitems hx hp hq
  · have hbackward := hpositions.mirror (items.length + 1) fun _ => equalAt_reverse
    rw [indexOf_eq, (enumerates_positionsOf items.reverse x).unique hbackward]

/-- A list that occurs in two spellings, and other items. -/
def listedTwice : List Value := [.list [.number ⟨10, 1⟩, .null], .null, .list [.number ⟨1, 0⟩, .null], .string "b"]

/-- Both spellings equal a third one. -/
theorem indexOf_enumerates_spellings :
    HasUniqueNames (.list listedTwice) ∧ HasUniqueNames (.list [.number ⟨100, 2⟩, .null]) ∧
      Operation.indexOf [.list listedTwice, .list [.number ⟨100, 2⟩, .null]] = .ok (positionList [1, 3]) ∧
      HoldsWord (.ofInt 3) 3 ∧
      (∃ found, Operation.elementAt [.list listedTwice, .number (.ofInt 3)] = .ok found ∧
        found == .list [.number ⟨100, 2⟩, .null]) ∧
      Operation.listContains [.list listedTwice, .list [.number ⟨100, 2⟩, .null]] = .ok (.boolean true) ∧
      ∃ backward, Operation.reverse [.list listedTwice] = .ok backward ∧
        Operation.indexOf [backward, .list [.number ⟨100, 2⟩, .null]] = .ok (positionList [2, 4]) := by
  have hatom {v : Value} (h : IsAtom v) : HasUniqueNames v := h.hasUniqueNames
  have hitems : HasUniqueNames (.list listedTwice) := by
    simp only [listedTwice, hasUniqueNames_list, List.forall_mem_cons]
    exact ⟨⟨hatom trivial, hatom trivial, by simp⟩, hatom trivial, ⟨hatom trivial, hatom trivial, by simp⟩,
      hatom trivial, by simp⟩
  have hx : HasUniqueNames (.list [.number ⟨100, 2⟩, .null]) := by
    simp only [hasUniqueNames_list, List.forall_mem_cons]
    exact ⟨hatom trivial, hatom trivial, by simp⟩
  have hthree : HoldsWord (.ofInt 3) 3 := holdsWord_ofInt (by decide)
  obtain ⟨positions, hcall, henumerates, helement, hcontains, -, backward, hreverse, hbackward⟩ :=
    indexOf_enumerates hitems hx
  obtain rfl : positions = [1, 3] := (henumerates.unique (enumerates_positionsOf _ _)).trans (by rfl)
  exact ⟨hitems, hx, hcall, hthree, (helement 3 _ (by decide) hthree).mp (by decide), hcontains, backward, hreverse,
    hbackward⟩

end Feel.Proofs
