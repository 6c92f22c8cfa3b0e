import Feel.Proofs.ValueEquality

/-!
# Distinct values

Of equal values in a list only the first is kept, and equal values may look different. An item is compared
with the items that are kept so far, which comes to the same as comparing it with all items before it,
because equality is transitive. Hence a union does not depend on how its lists are grouped, and a list whose
items all occur before it adds nothing.
-/

namespace Feel.Proofs

/-! ### Traversals -/

/-- The values that stand at the places with a property, in the order of the places. -/
def IsTraversal {α : Type} [LT α] (find? : α → Option Value) (P : α → Prop) (values : List Value) : Prop :=
  ∃ places : List α, places.Pairwise (· < ·) ∧ (∀ p, p ∈ places ↔ P p) ∧ values.map some = places.map find?

section Traversal

variable {α β : Type} [LT α] [LT β] {find? : α → Option Value} {P Q R : α → Prop} {xs ys : List Value}

lemma isTraversal_nil (h : ∀ p, ¬P p) : IsTraversal find? P [] :=
  ⟨[], .nil, fun p => iff_of_false List.not_mem_nil (h p), rfl⟩

lemma isTraversal_singleton {p : α} {v : Value} (h : find? p = some v) :
    IsTraversal find? (fun q => q = p) [v] :=
  ⟨[p], List.pairwise_singleton _ _, fun _ => List.mem_singleton, by simp [h]⟩

lemma IsTraversal.append (h : IsTraversal find? P xs) (h' : IsTraversal find? Q ys)
    (hlt : ∀ p q, P p → Q q → p < q) (hR : ∀ p, R p ↔ P p ∨ Q p) : IsTraversal find? R (xs ++ ys) := by
  obtain ⟨places, hplaces, hmem, hvalues⟩ := h
  obtain ⟨others, hothers, hmem', hvalues'⟩ := h'
  refine ⟨places ++ others, List.pairwise_append.mpr ⟨hplaces, hothers, fun p hp q hq => ?_⟩, fun p => ?_, ?_⟩
  · exact hlt p q ((hmem p).mp hp) ((hmem' q).mp hq)
  · rw [List.mem_append, hmem, hmem', hR]
  · rw [List.map_append, List.map_append, hvalues, hvalues']

lemma IsTraversal.map {findIn? : β → Option Value} {S : β → Prop} (f : α → β) (h : IsTraversal find? P xs)
    (hlt : ∀ p q, p < q → f p < f q) (hfind : ∀ p, P p → findIn? (f p) = find? p)
    (hS : ∀ q, S q ↔ ∃ p, P p ∧ f p = q) : IsTraversal findIn? S xs := by
  obtain ⟨places, hplaces, hmem, hvalues⟩ := h
  refine ⟨places.map f, List.pairwise_map.mpr (hplaces.imp (hlt _ _)), fun q => ?_, ?_⟩
  · simp only [List.mem_map, hmem, hS]
  · rw [hvalues, List.map_map]
    exact List.map_congr_left fun p hp => (hfind p ((hmem p).mp hp)).symm

lemma IsTraversal.congr {findIn? : α → Option Value} (h : IsTraversal find? P xs)
    (hfind : ∀ p, P p → findIn? p = find? p) (hQ : ∀ p, Q p ↔ P p) : IsTraversal findIn? Q xs :=
  h.map id (fun _ _ hlt => hlt) hfind (by simp [hQ])

end Traversal

/-! ### Kept items -/

section DistinctAfter

variable {seen others items xs ys : List Value} {v w : Value}

/-- The item at this index equals none before it. -/
def IsNew (items : List Value) (i : ℕ) : Prop :=
  ∃ v, items[i]? = some v ∧ ∀ u ∈ items.take i, ¬(v == u)

lemma contains_iff : items.contains v = true ↔ ∃ u ∈ items, v == u := List.contains_iff_exists_mem_beq

lemma contains_of_beq (h : v == w) (hw : items.contains w = true) : items.contains v = true := by
  obtain ⟨u, hu, hwu⟩ := contains_iff.mp hw
  exact contains_iff.mpr ⟨u, hu, value_beq_trans h hwu⟩

/-- A value that equals one of the items adds none that a value could equal. -/
lemma contains_cons_of_contains (hv : items.contains v = true) (w : Value) :
    (v :: items).contains w = items.contains w := by
  rw [List.contains_cons, Bool.or_eq_right_iff_imp]
  exact fun h => contains_of_beq h hv

/-- Of the values that were seen it only matters which values equal one of them. -/
lemma distinctAfter_congr (h : ∀ v, seen.contains v = others.contains v) :
    Sequence.distinctAfter seen items = Sequence.distinctAfter others items := by
  induction items generalizing seen others with
  | nil => rfl
  | cons u rest ih =>
    have hmore (v : Value) : (u :: seen).contains v = (u :: others).contains v := by
      rw [List.contains_cons, List.contains_cons, h]
    rw [Sequence.distinctAfter, Sequence.distinctAfter, h u, ih h, ih hmore]

lemma distinctAfter_append : Sequence.distinctAfter seen (xs ++ ys) =
    Sequence.distinctAfter seen xs ++ Sequence.distinctAfter (xs ++ seen) ys := by
  induction xs generalizing seen with
  | nil => rfl
  | cons u rest ih =>
    rw [List.cons_append, Sequence.distinctAfter, Sequence.distinctAfter]
    by_cases hu : seen.contains u = true
    · rw [if_pos hu, if_pos hu, ih]
      congr 1
      refine distinctAfter_congr fun v => (contains_cons_of_contains ?_ v).symm
      rw [List.contains_append, hu, Bool.or_true]
    · rw [if_neg hu, if_neg hu, ih, List.cons_append]
      congr 2
      refine distinctAfter_congr fun v => ?_
      simp only [List.contains_append, List.contains_cons, List.cons_append, Bool.or_left_comm]

/-- What is dropped equals something that was seen or is kept. -/
lemma contains_distinctAfter_append :
    (Sequence.distinctAfter seen items ++ seen).contains v = (items ++ seen).contains v := by
  induction items generalizing seen with
  | nil => rfl
  | cons u rest ih =>
    rw [Sequence.distinctAfter]
    split_ifs with hu
    · have hlater : (rest ++ seen).contains u = true := by rw [List.contains_append, hu, Bool.or_true]
      rw [ih, List.cons_append, contains_cons_of_contains hlater]
    · have hnext := @ih (u :: seen)
      simp only [List.contains_append, List.contains_cons, List.cons_append, Bool.or_left_comm] at hnext ⊢
      exact hnext

/-- Items that are dropped anyway may be dropped before. -/
lemma distinctAfter_distinctAfter (h : ∀ v, others.contains v = true → seen.contains v = true) :
    Sequence.distinctAfter seen (Sequence.distinctAfter others items) = Sequence.distinctAfter seen items := by
  induction items generalizing seen others with
  | nil => rfl
  | cons u rest ih =>
    rw [Sequence.distinctAfter, Sequence.distinctAfter]
    by_cases hseen : seen.contains u = true
    · have hmore (v : Value) (hv : (u :: others).contains v = true) : seen.contains v = true := by
        rw [List.contains_cons, Bool.or_eq_true] at hv
        exact hv.elim (contains_of_beq · hseen) (h v)
      split_ifs with hothers
      · exact ih h
      · rw [Sequence.distinctAfter, if_pos hseen, ih hmore]
    · have hmore (v : Value) (hv : (u :: others).contains v = true) : (u :: seen).contains v = true := by
        rw [List.contains_cons, Bool.or_eq_true] at *
        exact hv.imp_right (h v)
      rw [if_neg fun hothers => hseen (h u hothers), Sequence.distinctAfter, if_neg hseen, if_neg hseen, ih hmore]

lemma distinctAfter_eq_nil (h : ∀ v ∈ items, seen.contains v = true) :
    Sequence.distinctAfter seen items = [] := by
  induction items with
  | nil => rfl
  | cons u rest ih =>
    obtain ⟨hu, hrest⟩ := List.forall_mem_cons.mp h
    rw [Sequence.distinctAfter, if_pos hu, ih hrest]

lemma not_contains_of_mem_distinctAfter (h : v ∈ Sequence.distinctAfter seen items) :
    ¬seen.contains v = true := by
  induction items generalizing seen with
  | nil => exact absurd h List.not_mem_nil
  | cons u rest ih =>
    rw [Sequence.distinctAfter] at h
    split_ifs at h with hu
    · exact ih h
    · obtain rfl | h := List.mem_cons.mp h
      · exact hu
      · exact fun hv => ih h (by rw [List.contains_cons, hv, Bool.or_true])

lemma pairwise_distinctAfter : (Sequence.distinctAfter seen items).Pairwise fun a b => ¬(b == a) := by
  induction items generalizing seen with
  | nil => exact .nil
  | cons u rest ih =>
    rw [Sequence.distinctAfter]
    split_ifs
    · exact ih
    · refine .cons (fun b hb hequal => not_contains_of_mem_distinctAfter hb ?_) ih
      rw [List.contains_cons, hequal, Bool.true_or]

end DistinctAfter

section Distinct

variable {items xs ys zs : List Value} {v : Value}

lemma distinct_append_singleton : Sequence.distinct (items ++ [v]) =
    if items.contains v then Sequence.distinct items else Sequence.distinct items ++ [v] := by
  rw [Sequence.distinct, distinctAfter_append, List.append_nil, Sequence.distinctAfter, Sequence.distinct]
  split_ifs
  · exact List.append_nil _
  · rfl

lemma isNew_append_singleton (i : ℕ) : IsNew (items ++ [v]) i ↔
    IsNew items i ∨ (i = items.length ∧ ¬items.contains v = true) := by
  obtain hlt | rfl | hgt := lt_trichotomy i items.length
  · have hne : i ≠ items.length := hlt.ne
    simp only [IsNew, List.getElem?_append_left hlt, List.take_append_of_le_length hlt.le, hne, false_and,
      or_false]
  · simp [IsNew, contains_iff]
  · have hne : i ≠ items.length := hgt.ne'
    have hnone : (items ++ [v])[i]? = none := List.getElem?_eq_none (by simpa using hgt)
    simp [IsNew, hnone, List.getElem?_eq_none hgt.le, hne]

lemma IsNew.lt_length {i : ℕ} (h : IsNew items i) : i < items.length := by
  obtain ⟨v, hv, -⟩ := h
  exact (List.getElem?_eq_some_iff.mp hv).1

lemma isTraversal_distinct (items : List Value) :
    IsTraversal (items[·]?) (IsNew items) (Sequence.distinct items) := by
  induction items using List.reverseRecOn with
  | nil => exact isTraversal_nil fun i h => absurd h.lt_length (Nat.not_lt_zero i)
  | append_singleton items v ih =>
    have hkept : IsTraversal ((items ++ [v])[·]?) (IsNew items) (Sequence.distinct items) :=
      ih.congr (fun i hi => List.getElem?_append_left hi.lt_length) fun _ => Iff.rfl
    rw [distinct_append_singleton]
    split_ifs with hv
    · exact hkept.congr (fun _ _ => rfl) fun i => by simp [isNew_append_singleton, hv]
    · refine hkept.append (isTraversal_singleton List.getElem?_concat_length)
        (fun i j hi hj => hj ▸ hi.lt_length) fun i => ?_
      rw [isNew_append_singleton, and_iff_left hv]

lemma contains_distinct : (Sequence.distinct items).contains v = items.contains v := by
  have hall : (Sequence.distinctAfter [] items ++ []).contains v = (items ++ []).contains v :=
    contains_distinctAfter_append
  rwa [List.append_nil, List.append_nil] at hall

lemma distinct_distinct : Sequence.distinct (Sequence.distinct items) = Sequence.distinct items :=
  distinctAfter_distinctAfter fun _ h => h

/-- Repeated items within a part change nothing. -/
lemma distinct_append_distinct :
    Sequence.distinct (xs ++ Sequence.distinct ys ++ zs) = Sequence.distinct (xs ++ ys ++ zs) := by
  have hmiddle : Sequence.distinctAfter xs (Sequence.distinct ys) = Sequence.distinctAfter xs ys :=
    distinctAfter_distinctAfter fun _ h => nomatch h
  have hrest : Sequence.distinctAfter (xs ++ Sequence.distinct ys) zs =
      Sequence.distinctAfter (xs ++ ys) zs := by
    refine distinctAfter_congr fun v => ?_
    rw [List.contains_append, List.contains_append, contains_distinct]
  unfold Sequence.distinct at *
  rw [distinctAfter_append, distinctAfter_append, distinctAfter_append, distinctAfter_append]
  simp only [List.append_nil, hmiddle, hrest]

/-- A part whose items all equal an item before it may be left out. -/
lemma distinct_append_of_contains (h : ∀ v ∈ ys, xs.contains v = true) :
    Sequence.distinct (xs ++ ys ++ zs) = Sequence.distinct (xs ++ zs) := by
  have hseen (v : Value) : (xs ++ ys).contains v = xs.contains v := by
    rw [List.contains_append, Bool.or_eq_left_iff_imp]
    intro hv
    obtain ⟨u, hu, hequal⟩ := contains_iff.mp hv
    exact contains_of_beq hequal (h u hu)
  unfold Sequence.distinct
  rw [distinctAfter_append, distinctAfter_append, distinctAfter_append]
  simp only [List.append_nil, distinctAfter_eq_nil h]
  rw [distinctAfter_congr hseen]

lemma pairwise_distinct (h : HasUniqueNames (.list items)) :
    (Sequence.distinct items).Pairwise fun a b => ¬(a == b) ∧ ¬(b == a) := by
  rw [hasUniqueNames_list] at h
  refine pairwise_distinctAfter.imp_of_mem fun {a b} ha hb hne => ⟨fun hequal => hne ?_, hne⟩
  exact value_beq_symm (h a (mem_of_mem_distinctAfter ha)) (h b (mem_of_mem_distinctAfter hb)) hequal

end Distinct

/-! ### Lists joined -/

section Union

variable (lists : List (List Value))

def unionCall (lists : List (List Value)) : Except Fault Value := Operation.union (lists.map .list)

lemma anyNull_lists : anyNull (lists.map .list) = false := by
  rw [anyNull, List.any_map, List.any_eq_false]
  exact fun _ _ => Bool.false_ne_true

lemma joined_lists : Operation.joined (lists.map .list) = .ok lists.flatten := by
  have hitems : (lists.map Value.list).mapM Value.toItems = .ok lists := by
    induction lists with
    | nil => rfl
    | cons items rest ih => rw [List.map_cons, List.mapM_cons, ih]; rfl
  rw [Operation.joined, hitems]
  rfl

lemma concatenate_lists : Operation.concatenate (lists.map .list) = .ok (.list lists.flatten) := by
  rw [Operation.concatenate, anyNull_lists, joined_lists]
  rfl

lemma unionCall_eq : unionCall lists = .ok (.list (Sequence.distinct lists.flatten)) := by
  rw [unionCall, Operation.union, anyNull_lists, joined_lists]
  rfl

end Union

lemma unionCall_regroup (front middle back : List (List Value)) :
    unionCall (front ++ Sequence.distinct middle.flatten :: back) = unionCall (front ++ middle ++ back) := by
  rw [unionCall_eq, unionCall_eq]
  simp only [List.flatten_append, List.flatten_cons, ← List.append_assoc]
  rw [distinct_append_distinct]

/-- The items that equal none before them are kept, and only these. So the kept items are unequal, every item
equals one of them, and keeping the first ones again keeps all; this needs that no context binds a name twice,
as holds for all values that the library can produce. The union of lists keeps the same items as their
concatenation, hence lists in it may be grouped, and a list whose items all equal items of lists before it may
be left out. -/
theorem distinctValues_keeps_first :
    (∀ items, HasUniqueNames (.list items) →
      ∃ kept, Operation.distinctValues [.list items] = .ok (.list kept) ∧
        IsTraversal (items[·]?) (IsNew items) kept ∧
        kept.Pairwise (fun a b => ¬(a == b) ∧ ¬(b == a)) ∧
        (∀ v ∈ items, ∃ w ∈ kept, v == w) ∧
        Operation.distinctValues [.list kept] = .ok (.list kept)) ∧
    (∀ lists : List (List Value), ∃ whole, Operation.concatenate (lists.map .list) = .ok whole ∧
      unionCall lists = Operation.distinctValues [whole]) ∧
    (∀ front middle back, ∃ merged, unionCall middle = .ok (.list merged) ∧
      unionCall (front ++ merged :: back) = unionCall (front ++ middle ++ back)) ∧
    (∀ a b c, ∃ ab bc, unionCall [a, b] = .ok (.list ab) ∧ unionCall [b, c] = .ok (.list bc) ∧
      unionCall [ab, c] = unionCall [a, bc]) ∧
    ∀ front extra back, (∀ v ∈ extra, ∃ u ∈ front.flatten, v == u) →
      unionCall (front ++ extra :: back) = unionCall (front ++ back) := by
  refine ⟨?_, ?_, ?_, ?_, ?_⟩
  · intro items h
    refine ⟨_, rfl, isTraversal_distinct items, pairwise_distinct h, fun v hv => ?_, ?_⟩
    · have hself := value_beq_refl (hasUniqueNames_list.mp h v hv)
      have hkept : (Sequence.distinct items).contains v = true := by
        rw [contains_distinct]
        exact contains_iff.mpr ⟨v, hv, hself⟩
      exact contains_iff.mp hkept
    · exact congrArg (fun kept => Except.ok (Value.list kept)) distinct_distinct
  · intro lists
    exact ⟨_, concatenate_lists lists, unionCall_eq lists⟩
  · intro front middle back
    exact ⟨_, unionCall_eq middle, unionCall_regroup front middle back⟩
  · intro a b c
    have hleft := unionCall_regroup [] [a, b] [c]
    have hright := unionCall_regroup [a] [b, c] []
    exact ⟨_, _, unionCall_eq _, unionCall_eq _, hleft.trans hright.symm⟩
  · intro front extra back hextra
    rw [unionCall_eq, unionCall_eq]
    simp only [List.flatten_append, List.flatten_cons, ← List.append_assoc]
    rw [distinct_append_of_contains fun v hv => contains_iff.mpr (hextra v hv)]

/-- One and a context in two spellings each, with an unknown item between them. -/
def spellings : List Value :=
  [.number ⟨10, 1⟩, .context [("a", .null), ("b", .boolean true)], .null, .number ⟨1, 0⟩,
    .context [("b", .boolean true), ("a", .null)]]

/-- The first spellings are kept, and another one adds nothing. -/
theorem distinctValues_keeps_first_spellings :
    HasUniqueNames (.list spellings) ∧
      Operation.distinctValues [.list spellings] = .ok (.list (spellings.take 3)) ∧
      IsTraversal (spellings[·]?) (IsNew spellings) (spellings.take 3) ∧
      (∀ v ∈ [Value.number ⟨100, 2⟩], ∃ u ∈ [spellings].flatten, v == u) ∧
      unionCall [spellings, [.number ⟨100, 2⟩]] = unionCall [spellings] := by
  obtain ⟨hkeeps, -, -, -, hextra⟩ := distinctValues_keeps_first
  have hatom {v : Value} (h : IsAtom v) : HasUniqueNames v := h.hasUniqueNames
  have hunique : HasUniqueNames (.list spellings) := by
    simp only [spellings, hasUniqueNames_list, hasUniqueNames_context, List.forall_mem_cons]
    exact ⟨hatom trivial, ⟨by decide, hatom trivial, hatom trivial, by simp⟩, hatom trivial, hatom trivial,
      ⟨by decide, hatom trivial, hatom trivial, by simp⟩, by simp⟩
  have hequal : ∀ v ∈ [Value.number ⟨100, 2⟩], ∃ u ∈ [spellings].flatten, v == u :=
    List.forall_mem_singleton.mpr ⟨.number ⟨10, 1⟩, by simp [spellings], by decide⟩
  have hkept : Operation.distinctValues [.list spellings] = .ok (.list (spellings.take 3)) := by rfl
  obtain ⟨kept, hcall, htraversal, -⟩ := hkeeps _ hunique
  obtain rfl := Value.list.inj (Except.ok.inj (hkept.symm.trans hcall))
  exact ⟨hunique, hkept, htraversal, hequal, hextra [spellings] _ [] hequal⟩

end Feel.Proofs
