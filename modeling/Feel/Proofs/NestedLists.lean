import Feel.Proofs.DistinctValues

/-!
# Nested lists

Items of nested lists are addressed by paths of indices, which are compared like words. Flattening a list
gives the items at the ends of its paths that are no lists, in the order of the paths. Flattening one level
keeps these leaves and takes one from the depth of the nesting, so that flattening level by level ends with all
leaves after as many steps as lists are nested. Contexts are leaves, whatever they hold.
-/

namespace Feel.Proofs

section Induction

variable {P : Value → Prop} (leaf : ∀ v, v.kind ≠ .list → P v)
  (list : ∀ items, (∀ v ∈ items, P v) → P (.list items))

include leaf list

/-- Induction over the items of lists only. -/
theorem nested_induction (v : Value) : P v := by
  induction v using value_induction with
  | atom v hv => exact leaf v (isAtom_iff.mp hv).1
  | list items ih => exact list items ih
  | context entries ih => exact leaf _ nofun

end Induction

/-! ### Depth and paths -/

mutual

/-- How deep lists are nested. What is no list has depth zero, and a list is one deeper than its items. -/
def depth : Value → ℕ
  | .list items => depthOf items + 1
  | _ => 0

/-- The depth of the deepest item. -/
def depthOf : List Value → ℕ
  | [] => 0
  | v :: vs => max (depth v) (depthOf vs)

end

/-- What stands at the end of a path of indices, each of which is that of an item of a list. -/
def itemAt? : List ℕ → Value → Option Value
  | [], v => some v
  | i :: path, .list items => items[i]?.bind (itemAt? path)
  | _ :: _, _ => none

/-- The path leads to an item that is no list. -/
def LeadsToLeaf (v : Value) (path : List ℕ) : Prop := ∃ leaf, itemAt? path v = some leaf ∧ leaf.kind ≠ .list

/-- The first level of a list flattened so many times. -/
def flattenTimes : ℕ → Value → Except Fault Value
  | 0, v => .ok v
  | k + 1, v => do flattenTimes k (← Operation.flattenFirstLevel [v])

/-! ### Values that are no lists -/

section Leaf

variable {v : Value} (h : v.kind ≠ .list)

include h

lemma depth_of_ne : depth v = 0 := by
  cases v with
  | list items => exact absurd rfl h
  | _ => rfl

lemma leaves_of_ne : Sequence.leaves v = [v] := by
  cases v with
  | list items => exact absurd rfl h
  | _ => rfl

lemma unnest_cons_of_ne (rest : List Value) : Sequence.unnest (v :: rest) = v :: Sequence.unnest rest := by
  cases v with
  | list items => exact absurd rfl h
  | _ => rfl

lemma itemAt?_cons_of_ne (i : ℕ) (path : List ℕ) : itemAt? (i :: path) v = none := by
  cases v with
  | list items => exact absurd rfl h
  | _ => rfl

lemma leadsToLeaf_of_ne (path : List ℕ) : LeadsToLeaf v path ↔ path = [] := by
  cases path with
  | nil => exact iff_of_true ⟨v, rfl, h⟩ rfl
  | cons i path => simp [LeadsToLeaf, itemAt?_cons_of_ne h]

end Leaf

lemma exists_list_of_eq {v : Value} (h : v.kind = .list) : ∃ items, v = .list items := by
  have hform := unorderedFormOf_kind v
  rwa [h] at hform

/-! ### Leaves -/

section Leaves

variable {items others : List Value}

lemma leavesOf_append : Sequence.leavesOf (items ++ others) =
    Sequence.leavesOf items ++ Sequence.leavesOf others := by
  induction items with
  | nil => rfl
  | cons v rest ih => rw [List.cons_append, Sequence.leavesOf, Sequence.leavesOf, ih, List.append_assoc]

lemma leavesOf_singleton (v : Value) : Sequence.leavesOf [v] = Sequence.leaves v := List.append_nil _

lemma forall_leaves (v : Value) : ∀ leaf ∈ Sequence.leaves v, leaf.kind ≠ .list := by
  induction v using nested_induction with
  | leaf v h =>
    rw [leaves_of_ne h]
    exact List.forall_mem_singleton.mpr h
  | list items ih =>
    rw [Sequence.leaves]
    induction items with
    | nil => exact fun leaf hleaf => absurd hleaf List.not_mem_nil
    | cons v rest ihrest =>
      obtain ⟨hv, hrest⟩ := List.forall_mem_cons.mp ih
      rw [Sequence.leavesOf]
      exact List.forall_mem_append.mpr ⟨hv, ihrest hrest⟩

lemma forall_leavesOf (items : List Value) : ∀ leaf ∈ Sequence.leavesOf items, leaf.kind ≠ .list :=
  forall_leaves (.list items)

lemma leavesOf_eq_self (h : ∀ v ∈ items, v.kind ≠ .list) : Sequence.leavesOf items = items := by
  induction items with
  | nil => rfl
  | cons v rest ih =>
    obtain ⟨hv, hrest⟩ := List.forall_mem_cons.mp h
    rw [Sequence.leavesOf, leaves_of_ne hv, ih hrest, List.singleton_append]

/-- What leads to a leaf of a list enters the list at one of its items. -/
lemma leadsToLeaf_list (path : List ℕ) : LeadsToLeaf (.list items) path ↔
    ∃ i rest v, path = i :: rest ∧ items[i]? = some v ∧ LeadsToLeaf v rest := by
  cases path with
  | nil => simp [LeadsToLeaf, itemAt?, Value.kind]
  | cons i rest =>
    simp only [LeadsToLeaf, itemAt?, Option.bind_eq_some_iff, List.cons.injEq]
    constructor
    · rintro ⟨leaf, ⟨v, hv, hleaf⟩, hkind⟩
      exact ⟨i, rest, v, ⟨rfl, rfl⟩, hv, leaf, hleaf, hkind⟩
    · rintro ⟨j, more, v, ⟨rfl, rfl⟩, hv, leaf, hleaf, hkind⟩
      exact ⟨leaf, ⟨v, hv, hleaf⟩, hkind⟩

lemma leadsToLeaf_append_singleton (v : Value) (path : List ℕ) : LeadsToLeaf (.list (items ++ [v])) path ↔
    LeadsToLeaf (.list items) path ∨ ∃ rest, LeadsToLeaf v rest ∧ items.length :: rest = path := by
  simp only [leadsToLeaf_list]
  constructor
  · rintro ⟨i, rest, w, rfl, hw, hrest⟩
    obtain hlt | hge := lt_or_ge i items.length
    · rw [List.getElem?_append_left hlt] at hw
      exact Or.inl ⟨i, rest, w, rfl, hw, hrest⟩
    · obtain rfl : i = items.length := by
        have hlast := (List.getElem?_eq_some_iff.mp hw).1
        rw [List.length_append, List.length_singleton] at hlast
        omega
      rw [List.getElem?_concat_length] at hw
      exact Or.inr ⟨rest, Option.some.inj hw ▸ hrest, rfl⟩
  · rintro (⟨i, rest, w, rfl, hw, hrest⟩ | ⟨rest, hrest, rfl⟩)
    · have hlt := (List.getElem?_eq_some_iff.mp hw).1
      exact ⟨i, rest, w, rfl, (List.getElem?_append_left hlt).trans hw, hrest⟩
    · exact ⟨_, rest, v, rfl, List.getElem?_concat_length, hrest⟩

/-- The leaves of a value stand at the paths that lead to them, from left to right. -/
lemma isTraversal_leaves (v : Value) : IsTraversal (itemAt? · v) (LeadsToLeaf v) (Sequence.leaves v) := by
  induction v using nested_induction with
  | leaf v h =>
    rw [leaves_of_ne h]
    have hself : IsTraversal (itemAt? · v) (· = []) [v] := isTraversal_singleton rfl
    exact hself.congr (fun _ _ => rfl) (leadsToLeaf_of_ne h)
  | list items ih =>
    rw [Sequence.leaves]
    induction items using List.reverseRecOn with
    | nil => exact isTraversal_nil fun path h => by simp [leadsToLeaf_list] at h
    | append_singleton items v ihitems =>
      obtain ⟨hitems, hv⟩ := List.forall_mem_append.mp ih
      have hearlier : IsTraversal (itemAt? · (.list (items ++ [v]))) (LeadsToLeaf (.list items))
          (Sequence.leavesOf items) := by
        refine (ihitems hitems).congr (fun path hpath => ?_) fun _ => Iff.rfl
        obtain ⟨i, rest, w, rfl, hw, -⟩ := (leadsToLeaf_list path).mp hpath
        have hlt := (List.getElem?_eq_some_iff.mp hw).1
        exact congrArg (·.bind (itemAt? rest)) (List.getElem?_append_left hlt)
      have hlast : IsTraversal (itemAt? · (.list (items ++ [v])))
          (fun path => ∃ rest, LeadsToLeaf v rest ∧ items.length :: rest = path) (Sequence.leaves v) := by
        refine (List.forall_mem_singleton.mp hv).map (items.length :: ·) (fun _ _ h => .cons h)
          (fun path _ => ?_) fun _ => Iff.rfl
        exact congrArg (·.bind (itemAt? path)) List.getElem?_concat_length
      rw [leavesOf_append, leavesOf_singleton]
      refine hearlier.append hlast ?_ (leadsToLeaf_append_singleton v)
      rintro path _ hpath ⟨rest, -, rfl⟩
      obtain ⟨i, rest, w, rfl, hw, -⟩ := (leadsToLeaf_list path).mp hpath
      exact .rel (List.getElem?_eq_some_iff.mp hw).1

end Leaves

/-! ### Levels -/

section Levels

variable {items others : List Value}

lemma depthOf_append : depthOf (items ++ others) = max (depthOf items) (depthOf others) := by
  induction items with
  | nil => exact (Nat.zero_max _).symm
  | cons v rest ih => rw [List.cons_append, depthOf, depthOf, ih, max_assoc]

lemma forall_ne_of_depthOf (h : depthOf items = 0) : ∀ v ∈ items, v.kind ≠ .list := by
  induction items with
  | nil => exact fun v hv => absurd hv List.not_mem_nil
  | cons v rest ih =>
    rw [depthOf, Nat.max_eq_zero_iff] at h
    refine List.forall_mem_cons.mpr ⟨fun hkind => ?_, ih h.2⟩
    obtain ⟨nested, rfl⟩ := exists_list_of_eq hkind
    exact Nat.succ_ne_zero _ h.1

lemma unnest_cons_list (nested rest : List Value) :
    Sequence.unnest (.list nested :: rest) = nested ++ Sequence.unnest rest := rfl

lemma leavesOf_unnest (items : List Value) : Sequence.leavesOf (Sequence.unnest items) = Sequence.leavesOf items := by
  induction items with
  | nil => rfl
  | cons v rest ih =>
    by_cases hv : v.kind = .list
    · obtain ⟨nested, rfl⟩ := exists_list_of_eq hv
      rw [unnest_cons_list, leavesOf_append, ih, Sequence.leavesOf, Sequence.leaves]
    · rw [unnest_cons_of_ne hv, Sequence.leavesOf, Sequence.leavesOf, ih]

lemma depthOf_unnest (items : List Value) : depthOf (Sequence.unnest items) = depthOf items - 1 := by
  induction items with
  | nil => rfl
  | cons v rest ih =>
    by_cases hv : v.kind = .list
    · obtain ⟨nested, rfl⟩ := exists_list_of_eq hv
      rw [unnest_cons_list, depthOf_append, ih, depthOf, depth]
      omega
    · rw [unnest_cons_of_ne hv, depthOf, depthOf, ih, depth_of_ne hv]
      omega

lemma depthOf_iterate_unnest (k : ℕ) : depthOf (Sequence.unnest^[k] items) = depthOf items - k := by
  induction k with
  | zero => rfl
  | succ k ih => rw [Function.iterate_succ_apply', depthOf_unnest, ih, Nat.sub_sub]

lemma leavesOf_iterate_unnest (k : ℕ) :
    Sequence.leavesOf (Sequence.unnest^[k] items) = Sequence.leavesOf items := by
  induction k with
  | zero => rfl
  | succ k ih => rw [Function.iterate_succ_apply', leavesOf_unnest, ih]

/-- After as many steps as lists are nested only the leaves are left. -/
lemma iterate_unnest_eq_leavesOf {k : ℕ} (h : depthOf items ≤ k) :
    Sequence.unnest^[k] items = Sequence.leavesOf items := by
  have hflat : depthOf (Sequence.unnest^[k] items) = 0 := by
    rw [depthOf_iterate_unnest]
    omega
  rw [← leavesOf_eq_self (forall_ne_of_depthOf hflat), leavesOf_iterate_unnest]

/-- Before that, each step changes the depth. -/
lemma iterate_unnest_succ_eq_iff (k : ℕ) :
    Sequence.unnest^[k + 1] items = Sequence.unnest^[k] items ↔ depthOf items ≤ k := by
  constructor
  · intro h
    have hdepth := congrArg depthOf h
    rw [depthOf_iterate_unnest, depthOf_iterate_unnest] at hdepth
    omega
  · intro h
    rw [iterate_unnest_eq_leavesOf h, iterate_unnest_eq_leavesOf (h.trans k.le_succ)]

lemma flattenTimes_list (k : ℕ) (items : List Value) :
    flattenTimes k (.list items) = .ok (.list (Sequence.unnest^[k] items)) := by
  induction k generalizing items with
  | zero => rfl
  | succ k ih => exact ih (Sequence.unnest items)

end Levels

/-- Flattening gives the items at the ends of all paths that lead to no list, from left to right. This is
what flattening level by level comes to, which changes the list exactly as many times as lists are nested in
it. So a level may be flattened before, flattening again changes nothing, and lists may be joined before or
after. -/
theorem flatten_isTraversal (items : List Value) :
    ∃ leaves, Operation.flatten [.list items] = .ok (.list leaves) ∧ (∀ v ∈ leaves, v.kind ≠ .list) ∧
      IsTraversal (itemAt? · (.list items)) (LeadsToLeaf (.list items)) leaves ∧
      (∀ k, flattenTimes (depthOf items + k) (.list items) = .ok (.list leaves)) ∧
      (∀ k, flattenTimes (k + 1) (.list items) = flattenTimes k (.list items) ↔ depthOf items ≤ k) ∧
      (∃ once, Operation.flattenFirstLevel [.list items] = .ok once ∧
        Operation.flatten [once] = .ok (.list leaves)) ∧
      Operation.flatten [.list leaves] = .ok (.list leaves) ∧
      ∀ others, ∃ whole otherLeaves, Operation.concatenate [.list items, .list others] = .ok whole ∧
        Operation.flatten [.list others] = .ok (.list otherLeaves) ∧
        Operation.flatten [whole] = Operation.concatenate [.list leaves, .list otherLeaves] := by
  have hflatten {xs ys : List Value} (h : Sequence.leavesOf xs = ys) :
      Operation.flatten [.list xs] = .ok (.list ys) := h ▸ rfl
  refine ⟨_, rfl, forall_leavesOf items, isTraversal_leaves (.list items), ?_, ?_,
    ⟨_, rfl, hflatten (leavesOf_unnest items)⟩, hflatten (leavesOf_eq_self (forall_leavesOf items)), ?_⟩
  · intro k
    rw [flattenTimes_list, iterate_unnest_eq_leavesOf (Nat.le_add_right _ k)]
  · intro k
    rw [flattenTimes_list, flattenTimes_list, Except.ok.injEq, Value.list.injEq, iterate_unnest_succ_eq_iff]
  · intro others
    have hleaves := concatenate_lists [Sequence.leavesOf items, Sequence.leavesOf others]
    refine ⟨_, _, concatenate_lists [items, others], rfl, (hflatten ?_).trans hleaves.symm⟩
    simp only [List.flatten_cons, List.flatten_nil, List.append_nil, leavesOf_append]

/-- Lists of different depth, an empty one among them, and a context that holds a list. -/
def uneven : List Value :=
  [.list [.boolean true, .list []], .null, .context [("a", .list [.null])], .list [.list [.string "b"]]]

def unevenLeaves : List Value := [.boolean true, .null, .context [("a", .list [.null])], .string "b"]

/-- Two levels are flattened, but not the list in the context. -/
theorem flatten_isTraversal_uneven :
    Operation.flatten [.list uneven] = .ok (.list unevenLeaves) ∧
      (.context [("a", .list [.null])] ∈ unevenLeaves ∧
        Value.kind (.context [("a", .list [.null])]) ≠ .list) ∧
      IsTraversal (itemAt? · (.list uneven)) (LeadsToLeaf (.list uneven)) unevenLeaves ∧
      flattenTimes 2 (.list uneven) = .ok (.list unevenLeaves) ∧
      flattenTimes 2 (.list uneven) ≠ flattenTimes 1 (.list uneven) ∧
      Operation.flatten [.list unevenLeaves] = .ok (.list unevenLeaves) := by
  obtain ⟨leaves, hcall, hkinds, htraversal, htimes, hchanges, -, hagain, -⟩ := flatten_isTraversal uneven
  obtain rfl : unevenLeaves = leaves := Value.list.inj (Except.ok.inj hcall)
  have hmem : .context [("a", .list [.null])] ∈ unevenLeaves := .tail _ (.tail _ (.head _))
  exact ⟨hcall, ⟨hmem, hkinds _ hmem⟩, htraversal, htimes 0, fun h => absurd ((hchanges 1).mp h) (by decide),
    hagain⟩

end Feel.Proofs
