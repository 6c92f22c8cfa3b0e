import Feel.Builtin
import Feel.Proofs.LeastItems
import Feel.Proofs.ValueOrder

/-!
# Sorting by comparators of documents

Comparators of documents sort values of one ordered kind into the stable order of their keys, upward or
downward. Both orders keep equal keys as they stood, so that neither is the other one backward, and their
first items are the minimum and the maximum of the list.
-/

namespace Feel.Proofs
open Sequence Operation

/-! ### Keys at a position -/

/-- What decides where a value stands: the value itself, or its item at a position, counted from one. -/
def keyAt (position : Option ℕ) (v : Value) : Option Value :=
  match position, v with
  | none, v => some v
  | some k, .list items => items[k - 1]?
  | some _, _ => none

/-- How the keys of two values compare, if both have one and these are of one ordered kind. -/
def orderAt (position : Option ℕ) (a b : Value) : Option Ordering := do
  ((← keyAt position a).compare (← keyAt position b)).toOption

/-- Whether the key of a value compares with another key in the given way. -/
def standsBefore (wanted : Ordering) (position : Option ℕ) (a b : Value) : Bool :=
  orderAt position a b == some wanted

/-- The stable order of the items by their keys: no item is on the wanted side of an earlier one, and
items with equal keys stand as they stood. -/
structure IsStableSort (wanted : Ordering) (position : Option ℕ) (items sorted : List Value) : Prop where
  perm : sorted.Perm items
  ordered : sorted.Pairwise fun a b => orderAt position b a ≠ some wanted
  stable : ∀ a ∈ items, sorted.filter (fun b => orderAt position a b = some .eq) =
    items.filter fun b => orderAt position a b = some .eq

/-- The comparator that a document's object stands for. -/
def comparatorOf (identity : ℕ) (descending : Bool) (position : Option ℕ) : Comparator :=
  ⟨identity, descending, position.map (· - 1)⟩

/-- The direction in which a comparator runs. -/
def direction (descending : Bool) : Ordering := if descending then .gt else .lt

lemma key?_comparatorOf (identity : ℕ) (descending : Bool) (position : Option ℕ) (v : Value) :
    (comparatorOf identity descending position).key? v = keyAt position v := by
  cases position with
  | none => rfl
  | some k => cases v <;> rfl

/-- A comparator says that a value comes before another if their keys compare in its direction. -/
lemma isYes_before (identity : ℕ) (descending : Bool) (position : Option ℕ) (a b : Value) :
    isYes ((comparatorOf identity descending position).before a b) =
      standsBefore (direction descending) position a b := by
  unfold Comparator.before standsBefore orderAt
  rw [key?_comparatorOf, key?_comparatorOf]
  cases keyAt position a with
  | none => rfl
  | some x => cases keyAt position b with
    | none => rfl
    | some y => cases hcompare : x.compare y with
      | error fault => simp [hcompare, isYes, Except.toOption]
      | ok order =>
        cases descending <;> cases order <;>
          simp [hcompare, comparatorOf, direction, Except.toOption] <;> rfl

section Keys

variable {kind : Kind} {position : Option ℕ} {items : List Value}

/-- Every item has a key, of one ordered kind. -/
def HasKeys (kind : Kind) (position : Option ℕ) (items : List Value) : Prop :=
  ∀ v ∈ items, ∃ key, keyAt position v = some key ∧ key.kind = kind

/-- The rank of a value's key. -/
def rankAt (position : Option ℕ) (v : Value) : ℚ ×ₗ String ×ₗ ℤ :=
  orderKey ((keyAt position v).getD .null)

lemma orderAt_eq (hkind : IsOrdered kind) (hitems : HasKeys kind position items) {a b : Value}
    (ha : a ∈ items) (hb : b ∈ items) :
    orderAt position a b = some (compare (rankAt position a) (rankAt position b)) := by
  obtain ⟨x, hx, hkindX⟩ := hitems a ha
  obtain ⟨y, hy, hkindY⟩ := hitems b hb
  unfold orderAt rankAt
  rw [hx, hy]
  have hcompare : x.compare y = .ok (compare (orderKey x) (orderKey y)) :=
    compare_eq (by rwa [hkindX]) (by rw [hkindX, hkindY])
  simp [hcompare, Except.toOption]

/-- In either direction the keys are ranked by a linear order. -/
lemma exists_rankedBy (hkind : IsOrdered kind) (hitems : HasKeys kind position items)
    (descending : Bool) :
    ∃ (β : Type) (_ : LinearOrder β) (rank : Value → β),
      RankedBy (standsBefore (direction descending) position) rank items ∧
        ∀ a ∈ items, ∀ b ∈ items, orderAt position a b = some .eq ↔ rank a = rank b := by
  cases descending with
  | false =>
    refine ⟨_, inferInstance, rankAt position, fun a ha b hb => ?_, fun a ha b hb => ?_⟩
    · simp [standsBefore, orderAt_eq hkind hitems ha hb, direction, compare_lt_iff_lt]
    · simp [orderAt_eq hkind hitems ha hb, compare_eq_iff_eq]
  | true =>
    refine ⟨_, inferInstance, fun v => OrderDual.toDual (rankAt position v), fun a ha b hb => ?_,
      fun a ha b hb => ?_⟩
    · simp [standsBefore, orderAt_eq hkind hitems ha hb, direction, compare_gt_iff_gt]
    · simp [orderAt_eq hkind hitems ha hb, compare_eq_iff_eq]

lemma ascending_standsBefore {wanted : Ordering} {sorted : List Value} :
    Ascending (standsBefore wanted position) sorted ↔
      sorted.Pairwise fun a b => orderAt position b a ≠ some wanted := by
  simp [Ascending, standsBefore]

lemma strictWeakOn_standsBefore (hkind : IsOrdered kind) (hitems : HasKeys kind position items)
    (descending : Bool) : StrictWeakOn (standsBefore (direction descending) position) items := by
  obtain ⟨β, _, rank, hranked, -⟩ := exists_rankedBy hkind hitems descending
  exact hranked.strictWeakOn

/-- Items with equal keys are those that are tied. -/
lemma filter_orderAt (hkind : IsOrdered kind) (hitems : HasKeys kind position items) (descending : Bool)
    {sorted : List Value} (hsub : ∀ b ∈ sorted, b ∈ items) {a : Value} (ha : a ∈ items) :
    sorted.filter (fun b => orderAt position a b = some .eq) =
      sorted.filter (tied (standsBefore (direction descending) position) a) := by
  obtain ⟨β, _, rank, hranked, hequal⟩ := exists_rankedBy hkind hitems descending
  apply List.filter_congr
  intro b hb
  rw [Bool.eq_iff_iff, decide_eq_true_eq, hequal a ha b (hsub b hb)]
  exact (hranked.tied_iff ha (hsub b hb)).symm

/-- What the comparator's sort gives is the stable order, and nothing else is. -/
lemma isStableSort_iff (hkind : IsOrdered kind) (hitems : HasKeys kind position items)
    (descending : Bool) (sorted : List Value) :
    IsStableSort (direction descending) position items sorted ↔
      sorted = sortBy (standsBefore (direction descending) position) items := by
  have hweak := strictWeakOn_standsBefore hkind hitems descending
  have hsub : ∀ b ∈ sortBy (standsBefore (direction descending) position) items, b ∈ items :=
    fun b => mem_sortBy.mp
  have hties : ∀ a ∈ items, (sortBy (standsBefore (direction descending) position) items).filter
      (tied (standsBefore (direction descending) position) a) =
      items.filter (tied (standsBefore (direction descending) position) a) :=
    fun a ha => filter_tied_sortBy hweak (fun _ hb => hb) ha
  constructor
  · rintro ⟨hperm, hordered, hstable⟩
    refine eq_of_ascending_of_filter_tied hweak hsub (hperm.trans sortBy_perm.symm)
      (ascending_sortBy hweak) (ascending_standsBefore.mpr hordered) fun a ha => ?_
    have hkept := hstable a ha
    rw [filter_orderAt hkind hitems descending (fun b hb => hperm.subset hb) ha,
      filter_orderAt hkind hitems descending (fun b hb => hb) ha] at hkept
    rw [hkept, hties a ha]
  · rintro rfl
    refine ⟨sortBy_perm, ascending_standsBefore.mp (ascending_sortBy hweak), fun a ha => ?_⟩
    rw [filter_orderAt hkind hitems descending hsub ha,
      filter_orderAt hkind hitems descending (fun b hb => hb) ha, hties a ha]

end Keys

/-! ### Comparators of documents -/

/-- The document of a comparator, perhaps with a position. -/
def comparatorObject (order : String) : Option ℕ → Json
  | none => .object [("@lessThan", .string order)]
  | some k => .object [("@lessThan", .string order), ("by", .number (natText k))]

lemma readPosition?_natText {k : ℕ} (hpos : 0 < k) (hlt : k < Word.count64) :
    Value.readPosition? (.number (natText k)) = some (k - 1) := by
  have hnumber : Digits.isNumber (Digits.ofNat k) = true :=
    isNumber_iff.mpr ⟨ofNat_ne_nil k, allDigits_ofNat k⟩
  rw [Value.readPosition?, natText, String.toList_ofList]
  dsimp only
  rw [if_pos hnumber, toNat_ofNat, if_pos ⟨hpos, hlt⟩]

lemma decode_comparator [Zones] {next : ℕ} {fields : List (String × Json)} {order : Json} {f : Comparator}
    (horder : Entries.get? Tag.comparator.name fields = some order)
    (hread : Value.readComparator next order fields = .ok f) :
    Value.decode next (.object fields) = .ok (.function f, next + 1) := by
  rw [Value.decode, horder]
  dsimp only
  rw [hread]
  rfl

lemma decode_comparatorObject [Zones] (next : ℕ) (descending : Bool) {position : Option ℕ}
    (hposition : ∀ k ∈ position, 0 < k ∧ k < Word.count64) :
    Value.decode next (comparatorObject (if descending then ">" else "<") position) =
      .ok (.function (comparatorOf next descending position), next + 1) := by
  have horder : Value.readOrder? (.string (if descending then ">" else "<")) = some descending := by
    cases descending <;> rfl
  cases position with
  | none =>
    apply decode_comparator (by rfl)
    simp [Value.readComparator, horder]
    rfl
  | some k =>
    obtain ⟨hpos, hlt⟩ := hposition k rfl
    have hby : Entries.get? Value.positionName
        [("@lessThan", Json.string (if descending then ">" else "<")), ("by", Json.number (natText k))] =
        some (.number (natText k)) := rfl
    apply decode_comparator (by rfl)
    simp [Value.readComparator, horder, hby, readPosition?_natText hpos hlt]
    rfl

/-! ### Extreme items -/

lemma foldlM_eq_ok {α : Type} {f : α → α → Except Fault α} {g : α → α → α} {items : List α} {start : α}
    {P : α → Prop} (hf : ∀ a b, P a → P b → f a b = .ok (g a b)) (hg : ∀ a b, P a → P b → P (g a b))
    (hstart : P start) (hitems : ∀ b ∈ items, P b) : items.foldlM f start = .ok (items.foldl g start) := by
  induction items generalizing start with
  | nil => rfl
  | cons b items ih =>
    have hb := hitems b List.mem_cons_self
    rw [List.foldlM_cons, hf start b hstart hb, List.foldl_cons]
    exact ih (hg start b hstart hb) fun c hc => hitems c (List.mem_cons_of_mem b hc)

lemma orderAt_none (a b : Value) : orderAt none a b = (a.compare b).toOption := rfl

/-- The extreme item of a list of one kind is the first least one in its direction. -/
lemma extreme_eq {kind : Kind} (hkind : IsOrdered kind) (wanted : Ordering) {first : Value}
    {rest : List Value} (hitems : ∀ v ∈ first :: rest, v.kind = kind) :
    extreme wanted [.list (first :: rest)] = .ok (rest.foldl
      (fun best item => if standsBefore wanted none item best then item else best) first) := by
  have hcompare {a b : Value} (ha : a.kind = kind) (hb : b.kind = kind) :
      a.compare b = .ok (compare (orderKey a) (orderKey b)) :=
    compare_eq (by rwa [ha]) (by rw [ha, hb])
  have hfirst : first.kind = kind := hitems first List.mem_cons_self
  show (do let _ ← first.compare first; _ : Except Fault Value) = _
  rw [hcompare hfirst hfirst]
  apply foldlM_eq_ok (P := fun v => v.kind = kind) _ _ hfirst
    fun v hv => hitems v (List.mem_cons_of_mem first hv)
  · intro best item hbest hitem
    have hstands : standsBefore wanted none item best =
        decide (compare (orderKey item) (orderKey best) = wanted) := by
      rw [standsBefore, orderAt_none, hcompare hitem hbest, Except.toOption]
      exact Bool.eq_iff_iff.mpr (by simp)
    rw [hcompare hitem hbest, hstands]
    simp only [decide_eq_true_eq]
    rfl
  · intro best item hbest hitem
    split_ifs
    · exact hitem
    · exact hbest

/-! ### Sorting -/

section Sorting

variable {kind : Kind} {position : Option ℕ} {items : List Value}

lemma sort_comparatorOf [Zones] (identity : ℕ) (descending : Bool) :
    Builtin.sort.run [.list items, .function (comparatorOf identity descending position)] =
      .ok (.list (sortBy (standsBefore (direction descending) position) items)) := by
  have hbefore : (fun a b => isYes ((comparatorOf identity descending position).before a b)) =
      standsBefore (direction descending) position := by
    funext a b
    exact isYes_before identity descending position a b
  have hsort := sortWith_eq (comparatorOf identity descending position).before items
  rw [hbefore] at hsort
  rw [← hsort]
  rfl

/-- The first item of the stable order is the extreme item. -/
lemma exists_extreme_eq_head (hkind : IsOrdered kind) (hitems : ∀ v ∈ items, v.kind = kind)
    (hne : items ≠ []) (descending : Bool) :
    ∃ a, (sortBy (standsBefore (direction descending) none) items).head? = some a ∧
      extreme (direction descending) [.list items] = .ok a := by
  have hkeys : HasKeys kind none items := fun v hv => ⟨v, rfl, hitems v hv⟩
  have hweak := strictWeakOn_standsBefore hkind hkeys descending
  obtain ⟨first, rest, rfl⟩ := List.exists_cons_of_ne_nil hne
  cases hsorted : sortBy (standsBefore (direction descending) none) (first :: rest) with
  | nil =>
    have hperm : (sortBy (standsBefore (direction descending) none) (first :: rest)).Perm _ := sortBy_perm
    rw [hsorted] at hperm
    exact absurd hperm.symm.eq_nil (List.cons_ne_nil _ _)
  | cons a sorted =>
    have hhead : IsFirstLeast (standsBefore (direction descending) none) (first :: rest) a := by
      apply isFirstLeast_head hweak
      · rw [← hsorted]
        exact sortBy_perm
      · rw [← hsorted]
        exact ascending_sortBy hweak
      · rw [← hsorted]
        exact fun b hb => filter_tied_sortBy hweak (fun _ hc => hc) hb
    refine ⟨a, rfl, ?_⟩
    rw [extreme_eq hkind _ hitems, (isFirstLeast_foldl hweak).unique hweak hhead]

end Sorting

/-- The comparators of documents sort a list whose keys are of one ordered kind into the stable order of
the keys, upward or downward, which is the only one. Without a position, the minimum of the list is the
first item of the upward order and the maximum is the first item of the downward order. -/
theorem sort_comparator_isStableSort [Zones] {kind : Kind} (hkind : IsOrdered kind) {position : Option ℕ}
    (hposition : ∀ k ∈ position, 0 < k ∧ k < Word.count64) {items : List Value}
    (hitems : HasKeys kind position items) (next : ℕ) :
    ∃ f g up down,
      Value.decode next (comparatorObject "<" position) = .ok (.function f, next + 1) ∧
      Value.decode next (comparatorObject ">" position) = .ok (.function g, next + 1) ∧
      Builtin.sort.run [.list items, .function f] = .ok (.list up) ∧
      Builtin.sort.run [.list items, .function g] = .ok (.list down) ∧
      (∀ sorted, IsStableSort .lt position items sorted ↔ sorted = up) ∧
      (∀ sorted, IsStableSort .gt position items sorted ↔ sorted = down) ∧
      (position = none → items ≠ [] → ∃ least greatest,
        up.head? = some least ∧ Builtin.min.run [.list items] = .ok least ∧
        down.head? = some greatest ∧ Builtin.max.run [.list items] = .ok greatest) := by
  refine ⟨comparatorOf next false position, comparatorOf next true position, _, _,
    decode_comparatorObject next false hposition, decode_comparatorObject next true hposition,
    sort_comparatorOf next false, sort_comparatorOf next true,
    isStableSort_iff hkind hitems false, isStableSort_iff hkind hitems true, ?_⟩
  rintro rfl hne
  have hkinds : ∀ v ∈ items, v.kind = kind := by
    intro v hv
    obtain ⟨key, hkey, hkind⟩ := hitems v hv
    obtain rfl := Option.some.inj hkey
    exact hkind
  obtain ⟨least, hup, hmin⟩ := exists_extreme_eq_head hkind hkinds hne false
  obtain ⟨greatest, hdown, hmax⟩ := exists_extreme_eq_head hkind hkinds hne true
  exact ⟨least, greatest, hup, hmin, hdown, hmax⟩

/-- Nine o'clock at universal time. -/
def nine : OffsetTime := ⟨⟨32400000000000, by decide⟩, .utc⟩

/-- Ten o'clock at universal time, as two clocks show it. -/
def ten : OffsetTime := ⟨⟨36000000000000, by decide⟩, .utc⟩

def noonAhead : OffsetTime := ⟨⟨43200000000000, by decide⟩, Zone.Paris.centralSummer⟩

/-- A list of a tag and a time. -/
def tagged (tag : String) (t : OffsetTime) : Value := .list [.string tag, .time t]

/-- Of equal times the one that stands first comes first in both orders, and is the maximum. -/
theorem sort_comparator_isStableSort_times :
    let items : List Value := [.time noonAhead, .time nine, .time ten]
    let pairs : List Value := [tagged "c" noonAhead, tagged "b" nine, tagged "a" ten]
    IsOrdered .time ∧ HasKeys .time none items ∧
    (∃ f g, Value.decode 0 (comparatorObject "<" none) = .ok (.function f, 1) ∧
      Value.decode 0 (comparatorObject ">" none) = .ok (.function g, 1) ∧
      Builtin.sort.run [.list items, .function f] =
        .ok (.list [.time nine, .time noonAhead, .time ten]) ∧
      Builtin.sort.run [.list items, .function g] =
        .ok (.list [.time noonAhead, .time ten, .time nine]) ∧
      Builtin.min.run [.list items] = .ok (.time nine) ∧
      Builtin.max.run [.list items] = .ok (.time noonAhead)) ∧
    2 ∈ some 2 ∧ 0 < 2 ∧ 2 < Word.count64 ∧ HasKeys .time (some 2) pairs ∧
    ∃ f, Value.decode 0 (comparatorObject ">" (some 2)) = .ok (.function f, 1) ∧
      Builtin.sort.run [.list pairs, .function f] =
        .ok (.list [tagged "c" noonAhead, tagged "a" ten, tagged "b" nine]) := by
  intro items pairs
  have hkind : IsOrdered .time := trivial
  have hkeys : HasKeys .time none items := by simp [items, HasKeys, keyAt, Value.kind]
  have hkeys₂ : HasKeys .time (some 2) pairs := by simp [pairs, tagged, HasKeys, keyAt, Value.kind]
  obtain ⟨f, g, up, down, hf, hg, hup, hdown, hascending, hdescending, hextreme⟩ :=
    sort_comparator_isStableSort hkind (by simp) hkeys 0
  obtain rfl : [.time nine, .time noonAhead, .time ten] = up := by
    apply (hascending _).mp
    refine ⟨List.Perm.swap _ _ _, by decide, fun a ha => ?_⟩
    simp only [items, List.mem_cons, List.not_mem_nil, or_false] at ha
    obtain rfl | rfl | rfl := ha <;> rfl
  obtain rfl : [.time noonAhead, .time ten, .time nine] = down := by
    apply (hdescending _).mp
    refine ⟨(List.Perm.swap _ _ _).cons _, by decide, fun a ha => ?_⟩
    simp only [items, List.mem_cons, List.not_mem_nil, or_false] at ha
    obtain rfl | rfl | rfl := ha <;> rfl
  obtain ⟨least, greatest, hleast, hmin, hgreatest, hmax⟩ := hextreme rfl (List.cons_ne_nil _ _)
  obtain rfl := Option.some.inj hleast
  obtain rfl := Option.some.inj hgreatest
  obtain ⟨-, f₂, -, down₂, -, hf₂, -, hdown₂, -, hdescending₂, -⟩ :=
    sort_comparator_isStableSort hkind (by simp [Word.count64]) hkeys₂ 0
  obtain rfl : [tagged "c" noonAhead, tagged "a" ten, tagged "b" nine] = down₂ := by
    apply (hdescending₂ _).mp
    refine ⟨(List.Perm.swap _ _ _).cons _, by decide, fun a ha => ?_⟩
    simp only [pairs, List.mem_cons, List.not_mem_nil, or_false] at ha
    obtain rfl | rfl | rfl := ha <;> rfl
  exact ⟨hkind, hkeys, ⟨f, g, hf, hg, hup, hdown, hmin, hmax⟩, rfl, by decide, by decide, hkeys₂,
    f₂, hf₂, hdown₂⟩

end Feel.Proofs
