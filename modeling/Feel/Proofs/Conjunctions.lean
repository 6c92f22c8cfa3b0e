import Feel.Builtin
import Mathlib.Tactic

/-!
# Conjunctions and disjunctions

A conjunction is decided by a false part, a disjunction by a true one. Without such a part it has a
definite answer only if all parts are of the other truth value. So the answer depends on which parts
there are, and neither on their order nor on how often they occur, and parts may be combined group by
group. Parts that are given as arguments count like the items of one list.
-/

namespace Feel.Proofs

/-! ### Truth values -/

lemma truth_not_eq_yes_iff {t : Truth} : t.not = .yes ↔ t = .no := by cases t <;> decide

lemma truth_not_eq_no_iff {t : Truth} : t.not = .no ↔ t = .yes := by cases t <;> decide

lemma truth_and_eq_no_iff {s t : Truth} : s.and t = .no ↔ s = .no ∨ t = .no := by
  cases s <;> cases t <;> decide

lemma truth_and_eq_yes_iff {s t : Truth} : s.and t = .yes ↔ s = .yes ∧ t = .yes := by
  cases s <;> cases t <;> decide

/-- A false part is never lost, whatever was combined before it. -/
lemma foldl_and_eq_no_iff {start : Truth} {truths : List Truth} :
    truths.foldl Truth.and start = .no ↔ start = .no ∨ .no ∈ truths := by
  induction truths generalizing start with
  | nil =>
    rw [List.foldl_nil, iff_self_or]
    exact fun h => absurd h List.not_mem_nil
  | cons t truths ih =>
    rw [List.foldl_cons, ih, truth_and_eq_no_iff, or_assoc, List.mem_cons, eq_comm (a := t)]

lemma foldl_and_eq_yes_iff {start : Truth} {truths : List Truth} :
    truths.foldl Truth.and start = .yes ↔ start = .yes ∧ ∀ t ∈ truths, t = .yes := by
  induction truths generalizing start with
  | nil =>
    rw [List.foldl_nil, iff_self_and]
    exact fun _ t h => absurd h List.not_mem_nil
  | cons t truths ih => rw [List.foldl_cons, ih, truth_and_eq_yes_iff, and_assoc, List.forall_mem_cons]

lemma all_eq_no_iff {truths : List Truth} : Truth.all truths = .no ↔ .no ∈ truths := by
  rw [Truth.all, foldl_and_eq_no_iff, or_iff_right Truth.noConfusion]

lemma all_eq_yes_iff {truths : List Truth} : Truth.all truths = .yes ↔ ∀ t ∈ truths, t = .yes := by
  rw [Truth.all, foldl_and_eq_yes_iff, and_iff_right rfl]

lemma any_eq_yes_iff {truths : List Truth} : Truth.any truths = .yes ↔ .yes ∈ truths := by
  rw [Truth.any, truth_not_eq_yes_iff, all_eq_no_iff, List.mem_map]
  simp only [truth_not_eq_no_iff, exists_eq_right]

lemma any_eq_no_iff {truths : List Truth} : Truth.any truths = .no ↔ ∀ t ∈ truths, t = .no := by
  rw [Truth.any, truth_not_eq_no_iff, all_eq_yes_iff, List.forall_mem_map]
  simp only [truth_not_eq_yes_iff]

/-! ### Answers -/

/-- The function that one item of the given truth value decides: the conjunction is decided by a false
one, the disjunction by a true one. -/
def junction [Zones] : Bool → Operation
  | false => Builtin.and.run
  | true => Builtin.or.run

/-- The answer for some items if one with the deciding truth value is enough. -/
structure IsJunction (deciding : Bool) (items : List Value) (answer : Value) : Prop where
  eq_deciding_iff : answer = .boolean deciding ↔ .boolean deciding ∈ items
  eq_other_iff : answer = .boolean (!deciding) ↔ ∀ item ∈ items, item = .boolean (!deciding)
  eq_null_iff : answer = .null ↔
    .boolean deciding ∉ items ∧ ¬∀ item ∈ items, item = .boolean (!deciding)

lemma truthOf_eq_yes_iff {v : Value} : Operation.truthOf v = .yes ↔ v = .boolean true := by
  cases v with
  | boolean b => cases b <;> simp [Operation.truthOf]
  | _ => simp [Operation.truthOf]

lemma truthOf_eq_no_iff {v : Value} : Operation.truthOf v = .no ↔ v = .boolean false := by
  cases v with
  | boolean b => cases b <;> simp [Operation.truthOf]
  | _ => simp [Operation.truthOf]

lemma ofTruth_eq_true_iff {t : Truth} : Operation.ofTruth t = .boolean true ↔ t = .yes := by
  cases t <;> simp [Operation.ofTruth]

lemma ofTruth_eq_false_iff {t : Truth} : Operation.ofTruth t = .boolean false ↔ t = .no := by
  cases t <;> simp [Operation.ofTruth]

lemma ofTruth_eq_null_iff {t : Truth} : Operation.ofTruth t = .null ↔ t ≠ .no ∧ t ≠ .yes := by
  cases t <;> simp [Operation.ofTruth]

lemma isJunction_all (items : List Value) :
    IsJunction false items (Operation.ofTruth (Truth.all (items.map Operation.truthOf))) := by
  have hno : Truth.all (items.map Operation.truthOf) = .no ↔ .boolean false ∈ items := by
    simp only [all_eq_no_iff, List.mem_map, truthOf_eq_no_iff, exists_eq_right]
  have hyes : Truth.all (items.map Operation.truthOf) = .yes ↔
      ∀ item ∈ items, item = .boolean (!false) := by
    simp only [all_eq_yes_iff, List.forall_mem_map, truthOf_eq_yes_iff, Bool.not_false]
  exact ⟨ofTruth_eq_false_iff.trans hno, ofTruth_eq_true_iff.trans hyes,
    ofTruth_eq_null_iff.trans (and_congr hno.not hyes.not)⟩

lemma isJunction_any (items : List Value) :
    IsJunction true items (Operation.ofTruth (Truth.any (items.map Operation.truthOf))) := by
  have hyes : Truth.any (items.map Operation.truthOf) = .yes ↔ .boolean true ∈ items := by
    simp only [any_eq_yes_iff, List.mem_map, truthOf_eq_yes_iff, exists_eq_right]
  have hno : Truth.any (items.map Operation.truthOf) = .no ↔
      ∀ item ∈ items, item = .boolean (!true) := by
    simp only [any_eq_no_iff, List.forall_mem_map, truthOf_eq_no_iff, Bool.not_true]
  exact ⟨ofTruth_eq_true_iff.trans hyes, ofTruth_eq_false_iff.trans hno,
    ofTruth_eq_null_iff.trans (and_comm.trans (and_congr hyes.not hno.not))⟩

/-- The answer for one list is told by its items. -/
lemma exists_junction_list [Zones] (deciding : Bool) (items : List Value) :
    ∃ answer, junction deciding [.list items] = .ok answer ∧ IsJunction deciding items answer := by
  cases deciding with
  | false => exact ⟨_, rfl, isJunction_all items⟩
  | true => exact ⟨_, rfl, isJunction_any items⟩

lemma IsJunction.unique {deciding : Bool} {items : List Value} {v w : Value}
    (hv : IsJunction deciding items v) (hw : IsJunction deciding items w) : v = w := by
  by_cases hdeciding : .boolean deciding ∈ items
  · rw [hv.eq_deciding_iff.mpr hdeciding, hw.eq_deciding_iff.mpr hdeciding]
  · by_cases hother : ∀ item ∈ items, item = .boolean (!deciding)
    · rw [hv.eq_other_iff.mpr hother, hw.eq_other_iff.mpr hother]
    · rw [hv.eq_null_iff.mpr ⟨hdeciding, hother⟩, hw.eq_null_iff.mpr ⟨hdeciding, hother⟩]

lemma junction_list_eq_ok_iff [Zones] {deciding : Bool} {items : List Value} {v : Value} :
    junction deciding [.list items] = .ok v ↔ IsJunction deciding items v := by
  obtain ⟨answer, hanswer, hspec⟩ := exists_junction_list deciding items
  rw [hanswer, Except.ok.injEq]
  constructor
  · rintro rfl
    exact hspec
  · exact hspec.unique

/-! ### Laws -/

/-- Items with the same definite answers have the same answer. -/
lemma IsJunction.congr {deciding : Bool} {items others : List Value} {v : Value}
    (h : IsJunction deciding items v) (hdeciding : .boolean deciding ∈ items ↔ .boolean deciding ∈ others)
    (hother : (∀ item ∈ items, item = .boolean (!deciding)) ↔
      ∀ item ∈ others, item = .boolean (!deciding)) : IsJunction deciding others v :=
  ⟨h.eq_deciding_iff.trans hdeciding, h.eq_other_iff.trans hother,
    h.eq_null_iff.trans (and_congr hdeciding.not hother.not)⟩

/-- Items of two lists are combined by combining the answers for the lists. -/
lemma IsJunction.append {deciding : Bool} {items others : List Value} {v w answer : Value}
    (hv : IsJunction deciding items v) (hw : IsJunction deciding others w)
    (h : IsJunction deciding [v, w] answer) : IsJunction deciding (items ++ others) answer := by
  apply h.congr
  · rw [List.mem_append, ← hv.eq_deciding_iff, ← hw.eq_deciding_iff]
    simp only [List.mem_cons, List.not_mem_nil, or_false, eq_comm]
  · rw [List.forall_mem_append, ← hv.eq_other_iff, ← hw.eq_other_iff]
    simp only [List.forall_mem_cons, List.not_mem_nil, IsEmpty.forall_iff, implies_true, and_true]

/-- A value with true and false exchanged. -/
def opposite : Value → Value
  | .boolean b => .boolean !b
  | v => v

lemma opposite_eq_boolean_iff {v : Value} {b : Bool} : opposite v = .boolean b ↔ v = .boolean !b := by
  cases v with
  | boolean c => cases b <;> cases c <;> simp [opposite]
  | _ => simp [opposite]

lemma opposite_eq_null_iff {v : Value} : opposite v = .null ↔ v = .null := by
  cases v <;> simp [opposite]

lemma IsJunction.dual {deciding : Bool} {items : List Value} {v : Value}
    (h : IsJunction deciding items v) : IsJunction (!deciding) (items.map opposite) (opposite v) := by
  have hdeciding : .boolean deciding ∈ items ↔ .boolean (!deciding) ∈ items.map opposite := by
    simp only [List.mem_map, opposite_eq_boolean_iff, Bool.not_not, exists_eq_right]
  have hother : (∀ item ∈ items, item = .boolean !deciding) ↔
      ∀ item ∈ items.map opposite, item = .boolean !!deciding := by
    simp only [List.forall_mem_map, opposite_eq_boolean_iff, Bool.not_not]
  refine ⟨?_, ?_, ?_⟩
  · rw [opposite_eq_boolean_iff, Bool.not_not, h.eq_deciding_iff, hdeciding]
  · rw [opposite_eq_boolean_iff, Bool.not_not, h.eq_other_iff, hother]
  · rw [opposite_eq_null_iff, h.eq_null_iff, hdeciding, hother]

lemma spread?_eq_self {args : List Value} (hne : args ≠ []) (hnull : args ≠ [.null])
    (hlist : ∀ items, args ≠ [.list items]) : spread? args = some args := by
  unfold spread?
  split
  · exact absurd rfl (hlist _)
  · exact absurd rfl hne
  · exact absurd rfl hnull
  · rfl

lemma junction_of_spread? [Zones] {deciding : Bool} {args items : List Value}
    (h : spread? args = some items) :
    junction deciding args = junction deciding [.list items] := by
  cases deciding with
  | false =>
    rw [junction, Builtin.run, Operation.conjunction, h]
    rfl
  | true =>
    rw [junction, Builtin.run, Operation.disjunction, h]
    rfl

/-- Arguments count like the items of one list unless there are none or the only one is a list. -/
lemma junction_eq_list [Zones] {deciding : Bool} {args : List Value} (hne : args ≠ [])
    (hlist : ∀ items, args ≠ [.list items]) : junction deciding args = junction deciding [.list args] := by
  by_cases hnull : args = [.null]
  · subst hnull
    cases deciding <;> rfl
  · exact junction_of_spread? (spread?_eq_self hne hnull hlist)

lemma junction_nil [Zones] (deciding : Bool) : junction deciding [] = .ok .null := by cases deciding <;> rfl

/-- A list among the items is neither true nor false. -/
lemma junction_list_list [Zones] (deciding : Bool) (items : List Value) :
    junction deciding [.list [.list items]] = .ok .null := by
  cases deciding <;> rfl

lemma junction_list_nil [Zones] (deciding : Bool) : junction deciding [.list []] = .ok (.boolean !deciding) := by
  cases deciding <;> rfl

/-- Arguments count like the items of one list in all but these cases: there are none, or the only one
is a list with a definite answer. -/
lemma junction_eq_list_iff [Zones] {deciding : Bool} {args : List Value} :
    junction deciding args = junction deciding [.list args] ↔
      args ≠ [] ∧ ∀ items, args = [.list items] → junction deciding args = .ok .null := by
  constructor
  · intro h
    constructor
    · rintro rfl
      rw [junction_nil, junction_list_nil] at h
      exact Value.noConfusion (Except.ok.inj h)
    · rintro items rfl
      rw [h, junction_list_list]
  · rintro ⟨hne, hlist⟩
    by_cases hitems : ∃ items, args = [.list items]
    · obtain ⟨items, rfl⟩ := hitems
      rw [hlist items rfl, junction_list_list]
    · exact junction_eq_list hne (not_exists.mp hitems)

/-- One item with the deciding truth value decides, all items have to be of the other truth value for
the other definite answer, and any other list has no definite answer. So only the set of the items
counts, lists are combined through their answers, arguments count like the items of a list, and the
conjunction and the disjunction are dual. -/
theorem junction_laws [Zones] (deciding : Bool) :
    (∀ items, ∃ v, junction deciding [.list items] = .ok v ∧ IsJunction deciding items v) ∧
      (∀ items others, (∀ v, v ∈ items ↔ v ∈ others) →
        junction deciding [.list items] = junction deciding [.list others]) ∧
      (∀ items others, ∃ v w, junction deciding [.list items] = .ok v ∧
        junction deciding [.list others] = .ok w ∧
        junction deciding [.list (items ++ others)] = junction deciding [.list [v, w]]) ∧
      (∀ args, junction deciding args = junction deciding [.list args] ↔
        args ≠ [] ∧ ∀ items, args = [.list items] → junction deciding args = .ok .null) ∧
      ∀ items, ∃ v, junction deciding [.list items] = .ok v ∧
        junction (!deciding) [.list (items.map opposite)] = .ok (opposite v) := by
  refine ⟨exists_junction_list deciding, ?_, ?_, fun _ => junction_eq_list_iff, ?_⟩
  · intro items others hmem
    obtain ⟨v, hv, hspec⟩ := exists_junction_list deciding items
    have hothers : IsJunction deciding others v :=
      hspec.congr (hmem _) (forall_congr' fun item => imp_congr_left (hmem item))
    rw [hv, junction_list_eq_ok_iff.mpr hothers]
  · intro items others
    obtain ⟨v, hv, hvspec⟩ := exists_junction_list deciding items
    obtain ⟨w, hw, hwspec⟩ := exists_junction_list deciding others
    obtain ⟨answer, hanswer, hspec⟩ := exists_junction_list deciding [v, w]
    refine ⟨v, w, hv, hw, ?_⟩
    rw [hanswer, junction_list_eq_ok_iff.mpr (hvspec.append hwspec hspec)]
  · intro items
    obtain ⟨v, hv, hspec⟩ := exists_junction_list deciding items
    exact ⟨v, hv, junction_list_eq_ok_iff.mpr hspec.dual⟩

/-- True and unknown parts, in another order and one of them twice. -/
theorem junction_laws_repeated :
    (∀ v, v ∈ [Value.boolean true, .null, .boolean true] ↔ v ∈ [Value.null, .boolean true]) ∧
      Builtin.and.run [.list [.boolean true, .null, .boolean true]] =
        Builtin.and.run [.list [.null, .boolean true]] ∧
      Builtin.and.run [.list [.null, .boolean true]] = .ok .null := by
  have hmem : ∀ v, v ∈ [Value.boolean true, .null, .boolean true] ↔ v ∈ [Value.null, .boolean true] := by
    intro v
    simp only [List.mem_cons, List.not_mem_nil, or_false]
    tauto
  exact ⟨hmem, (junction_laws false).2.1 _ _ hmem, rfl⟩

end Feel.Proofs
