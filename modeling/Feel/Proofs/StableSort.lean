import Feel.Operation.Lists
import Mathlib

/-!
# Sorting by a predicate

What the merge sort guarantees depends on the predicate. For every predicate the result is a
permutation. If the predicate is asymmetric on the items, no two neighbours of the result are out of
order. If it is a strict weak order on the items, the result is sorted and stable, and it is the only
arrangement that is.
-/

namespace Feel.Proofs
open Sequence

section Arrangement

variable {α : Type} (before : α → α → Bool)

/-- Neither of two items comes before the other. -/
def tied (a b : α) : Bool := !before a b && !before b a

/-- No item comes before its left neighbour. -/
def InStep (items : List α) : Prop := items.IsChain fun a b => before b a = false

/-- No item comes before an earlier one. -/
def Ascending (items : List α) : Prop := items.Pairwise fun a b => before b a = false

/-- Tied items stand in the same order in both lists. -/
def SameTies (items arranged : List α) : Prop :=
  ∀ a ∈ items, arranged.filter (tied before a) = items.filter (tied before a)

/-- Of two items at most one comes before the other. -/
def AsymmetricOn (items : List α) : Prop :=
  ∀ a ∈ items, ∀ b ∈ items, before a b = true → before b a = false

/-- The predicate orders the items strictly, with ties that are equivalences. -/
structure StrictWeakOn (items : List α) : Prop where
  irrefl : ∀ a ∈ items, before a a = false
  trans : ∀ a ∈ items, ∀ b ∈ items, ∀ c ∈ items,
    before a b = true → before b c = true → before a c = true
  tied_trans : ∀ a ∈ items, ∀ b ∈ items, ∀ c ∈ items,
    tied before a b = true → tied before b c = true → tied before a c = true

end Arrangement

section Predicate

variable {α : Type} {before : α → α → Bool} {items : List α}

lemma tied_eq_true {a b : α} : tied before a b = true ↔ before a b = false ∧ before b a = false := by
  simp [tied]

lemma tied_comm {a b : α} : tied before a b = tied before b a := by
  simp [tied, Bool.and_comm]

lemma AsymmetricOn.mono {l : List α} (h : AsymmetricOn before items) (hl : ∀ a ∈ l, a ∈ items) :
    AsymmetricOn before l :=
  fun a ha b hb => h a (hl a ha) b (hl b hb)

namespace StrictWeakOn

lemma mono {l : List α} (h : StrictWeakOn before items) (hl : ∀ a ∈ l, a ∈ items) :
    StrictWeakOn before l where
  irrefl a ha := h.irrefl a (hl a ha)
  trans a ha b hb c hc := h.trans a (hl a ha) b (hl b hb) c (hl c hc)
  tied_trans a ha b hb c hc := h.tied_trans a (hl a ha) b (hl b hb) c (hl c hc)

lemma asymm (h : StrictWeakOn before items) : AsymmetricOn before items := by
  intro a ha b hb hab
  by_contra hba
  have haa := h.trans a ha b hb a ha hab (by simpa using hba)
  rw [h.irrefl a ha] at haa
  exact Bool.false_ne_true haa

lemma not_before_trans (h : StrictWeakOn before items) {a b c : α} (ha : a ∈ items) (hb : b ∈ items)
    (hc : c ∈ items) (hab : before a b = false) (hbc : before b c = false) : before a c = false := by
  by_contra hac
  have hac : before a c = true := by simpa using hac
  have hca : before c a = false := h.asymm a ha c hc hac
  by_cases hba : before b a = true
  · rw [h.trans b hb a ha c hc hba hac] at hbc
    exact Bool.false_ne_true hbc.symm
  · by_cases hcb : before c b = true
    · rw [h.trans a ha c hc b hb hac hcb] at hab
      exact Bool.false_ne_true hab.symm
    · have htab : tied before a b = true := tied_eq_true.mpr ⟨hab, by simpa using hba⟩
      have htbc : tied before b c = true := tied_eq_true.mpr ⟨hbc, by simpa using hcb⟩
      have htac := tied_eq_true.mp (h.tied_trans a ha b hb c hc htab htbc)
      rw [htac.1] at hac
      exact Bool.false_ne_true hac

end StrictWeakOn

end Predicate

section Merging

variable {α : Type} {before : α → α → Bool} {items : List α}

/-- The merge step of the sort. -/
private abbrev merged (before : α → α → Bool) (left right : List α) : List α :=
  List.merge left right fun l r => !before r l

lemma merged_perm (left right : List α) : (merged before left right).Perm (left ++ right) :=
  List.merge_perm_append _

lemma head?_merged {left right : List α} {a : α} (h : (merged before left right).head? = some a) :
    left.head? = some a ∨ right.head? = some a := by
  cases left with
  | nil => exact Or.inr (by simpa using h)
  | cons l left =>
    cases right with
    | nil => exact Or.inl (by simpa using h)
    | cons r right =>
      rw [merged, List.cons_merge_cons] at h
      by_cases hrl : before r l = true
      · exact Or.inr (by simpa [hrl] using h)
      · exact Or.inl (by simpa [hrl] using h)

/-- Merging keeps neighbours in step. After an item of one half the merge goes on with the next item of
that half, which was its neighbour, or with an item of the other half that it was compared with. -/
lemma inStep_merged {left right : List α} (h : AsymmetricOn before (left ++ right))
    (hl : InStep before left) (hr : InStep before right) : InStep before (merged before left right) := by
  induction left generalizing right with
  | nil => simpa using hr
  | cons l left ihl =>
    induction right with
    | nil => simpa using hl
    | cons r right ihr =>
      rw [merged, List.cons_merge_cons]
      by_cases hrl : before r l = true
      · have hlr : before l r = false := h r (by simp) l (by simp) hrl
        simp only [hrl, Bool.not_true, Bool.false_eq_true, if_false]
        refine List.isChain_cons.mpr ⟨?_, ihr (h.mono (by simp; tauto)) hr.tail⟩
        intro a ha
        obtain ha | ha := head?_merged ha
        · obtain rfl : l = a := by simpa using ha
          exact hlr
        · exact (List.isChain_cons.mp hr).1 a ha
      · have hrl : before r l = false := by simpa using hrl
        simp only [hrl, Bool.not_false, if_true]
        refine List.isChain_cons.mpr ⟨?_, ihl (h.mono (by simp; tauto)) hl.tail hr⟩
        intro a ha
        obtain ha | ha := head?_merged ha
        · exact (List.isChain_cons.mp hl).1 a ha
        · obtain rfl : r = a := by simpa using ha
          exact hrl

lemma ascending_merged {left right : List α} (h : StrictWeakOn before (left ++ right))
    (hl : Ascending before left) (hr : Ascending before right) :
    Ascending before (merged before left right) := by
  induction left generalizing right with
  | nil => simpa using hr
  | cons l left ihl =>
    induction right with
    | nil => simpa using hl
    | cons r right ihr =>
      obtain ⟨hl₁, hl₂⟩ := List.pairwise_cons.mp hl
      obtain ⟨hr₁, hr₂⟩ := List.pairwise_cons.mp hr
      rw [merged, List.cons_merge_cons]
      by_cases hrl : before r l = true
      · have hlr : before l r = false := h.asymm r (by simp) l (by simp) hrl
        simp only [hrl, Bool.not_true, Bool.false_eq_true, if_false]
        refine List.pairwise_cons.mpr ⟨?_, ihr (h.mono (by simp; tauto)) hr₂⟩
        intro a ha
        rw [List.mem_merge, List.mem_cons] at ha
        obtain (rfl | ha) | ha := ha
        · exact hlr
        · exact h.not_before_trans (by simp [ha]) (by simp) (by simp) (hl₁ a ha) hlr
        · exact hr₁ a ha
      · have hrl : before r l = false := by simpa using hrl
        simp only [hrl, Bool.not_false, if_true]
        refine List.pairwise_cons.mpr ⟨?_, ihl (h.mono (by simp; tauto)) hl₂ hr⟩
        intro a ha
        rw [List.mem_merge, List.mem_cons] at ha
        obtain ha | rfl | ha := ha
        · exact hl₁ a ha
        · exact hrl
        · exact h.not_before_trans (by simp [ha]) (by simp) (by simp) (hr₁ a ha) hrl

/-- Merging keeps ties in order: an item of the right half overtakes no item that it is tied with. -/
lemma filter_tied_merged {left right : List α} (h : StrictWeakOn before items)
    (hsub : ∀ b ∈ left ++ right, b ∈ items) (hl : Ascending before left) (hr : Ascending before right)
    {a : α} (ha : a ∈ items) :
    (merged before left right).filter (tied before a) =
      left.filter (tied before a) ++ right.filter (tied before a) := by
  induction left generalizing right with
  | nil => simp
  | cons l left ihl =>
    induction right with
    | nil => simp
    | cons r right ihr =>
      obtain ⟨hl₁, hl₂⟩ := List.pairwise_cons.mp hl
      obtain ⟨hr₁, hr₂⟩ := List.pairwise_cons.mp hr
      rw [merged, List.cons_merge_cons]
      by_cases hrl : before r l = true
      · simp only [hrl, Bool.not_true, Bool.false_eq_true, if_false]
        have ih := ihr (fun b hb => hsub b (by simp at hb ⊢; tauto)) hr₂
        by_cases har : tied before a r = true
        · have hnone : (l :: left).filter (tied before a) = [] := by
            rw [List.filter_eq_nil_iff]
            intro b hb hab
            -- Everything in the left half is behind `r`, so nothing there is tied with it.
            have hri : r ∈ items := hsub r (by simp)
            have hbi : b ∈ items := hsub b (by simp at hb ⊢; tauto)
            have hli : l ∈ items := hsub l (by simp)
            have hbl : before b l = false := by
              obtain rfl | hb := List.mem_cons.mp hb
              · exact h.irrefl b hbi
              · exact hl₁ b hb
            have hrb : tied before r b = true :=
              h.tied_trans r hri a ha b hbi (by rwa [tied_comm]) hab
            have hnot := h.not_before_trans hri hbi hli (tied_eq_true.mp hrb).1 hbl
            rw [hrl] at hnot
            exact Bool.false_ne_true hnot.symm
          rw [List.filter_cons_of_pos har, ih, hnone, List.filter_cons_of_pos har]
          simp
        · rw [List.filter_cons_of_neg har, ih, List.filter_cons_of_neg har]
      · have hrl : before r l = false := by simpa using hrl
        simp only [hrl, Bool.not_false, if_true]
        have ih := ihl (fun b hb => hsub b (by simp at hb ⊢; tauto)) hl₂ hr
        by_cases hal : tied before a l = true
        · rw [List.filter_cons_of_pos hal, ih, List.filter_cons_of_pos hal, List.cons_append]
        · rw [List.filter_cons_of_neg hal, ih, List.filter_cons_of_neg hal]

end Merging

section Sorting

variable {α : Type} {before : α → α → Bool} {items : List α}

lemma sortBy_perm : (sortBy before items).Perm items := by
  fun_induction sortBy before items with
  | case1 items h => exact List.Perm.refl items
  | case2 items h ihl ihr =>
    have hhalves := ihl.append ihr
    rw [List.take_append_drop] at hhalves
    exact (merged_perm _ _).trans hhalves

lemma mem_sortBy {a : α} : a ∈ sortBy before items ↔ a ∈ items := sortBy_perm.mem_iff

lemma mem_of_mem_sorted_halves {n : Nat} {a : α}
    (ha : a ∈ sortBy before (items.take n) ++ sortBy before (items.drop n)) : a ∈ items := by
  rw [List.mem_append, mem_sortBy, mem_sortBy] at ha
  exact ha.elim List.mem_of_mem_take List.mem_of_mem_drop

lemma inStep_of_length_le_one (h : items.length ≤ 1) : InStep before items := by
  match items, h with
  | [], _ => exact List.IsChain.nil
  | [a], _ => exact List.IsChain.singleton a

lemma ascending_of_length_le_one (h : items.length ≤ 1) : Ascending before items := by
  match items, h with
  | [], _ => exact List.Pairwise.nil
  | [a], _ => exact List.pairwise_singleton _ a

lemma inStep_sortBy (h : AsymmetricOn before items) : InStep before (sortBy before items) := by
  fun_induction sortBy before items with
  | case1 items hlen => exact inStep_of_length_le_one hlen
  | case2 items hlen ihl ihr =>
    exact inStep_merged (h.mono fun a => mem_of_mem_sorted_halves)
      (ihl (h.mono fun a => List.mem_of_mem_take)) (ihr (h.mono fun a => List.mem_of_mem_drop))

lemma ascending_sortBy (h : StrictWeakOn before items) : Ascending before (sortBy before items) := by
  fun_induction sortBy before items with
  | case1 items hlen => exact ascending_of_length_le_one hlen
  | case2 items hlen ihl ihr =>
    exact ascending_merged (h.mono fun a => mem_of_mem_sorted_halves)
      (ihl (h.mono fun a => List.mem_of_mem_take)) (ihr (h.mono fun a => List.mem_of_mem_drop))

lemma filter_tied_sortBy {whole : List α} (h : StrictWeakOn before whole)
    (hsub : ∀ b ∈ items, b ∈ whole) {a : α} (ha : a ∈ whole) :
    (sortBy before items).filter (tied before a) = items.filter (tied before a) := by
  fun_induction sortBy before items with
  | case1 items hlen => rfl
  | case2 items hlen ihl ihr =>
    have hl : ∀ b ∈ items.take (items.length / 2), b ∈ whole :=
      fun b hb => hsub b (List.mem_of_mem_take hb)
    have hr : ∀ b ∈ items.drop (items.length / 2), b ∈ whole :=
      fun b hb => hsub b (List.mem_of_mem_drop hb)
    have hmerged := filter_tied_merged h (fun b hb => hsub b (mem_of_mem_sorted_halves hb))
      (ascending_sortBy (h.mono hl)) (ascending_sortBy (h.mono hr)) ha
    rw [hmerged, ihl hl, ihr hr, ← List.filter_append, List.take_append_drop]

/-- A sorted arrangement with ties in a given order is unique: the first items of two such
arrangements are tied, so each is the first item tied with it, and they are the same. -/
lemma eq_of_ascending_of_filter_tied {whole : List α} (h : StrictWeakOn before whole)
    {xs ys : List α} (hsub : ∀ a ∈ xs, a ∈ whole) (hperm : ys.Perm xs)
    (hxs : Ascending before xs) (hys : Ascending before ys)
    (hties : ∀ a ∈ whole, ys.filter (tied before a) = xs.filter (tied before a)) : ys = xs := by
  induction xs generalizing ys with
  | nil => exact List.perm_nil.mp hperm
  | cons x xs ih =>
    cases ys with
    | nil => exact absurd hperm.length_eq (by simp)
    | cons y ys =>
      obtain ⟨hx₁, hx₂⟩ := List.pairwise_cons.mp hxs
      obtain ⟨hy₁, hy₂⟩ := List.pairwise_cons.mp hys
      have hx : x ∈ whole := hsub x (by simp)
      have hy : y ∈ whole := hsub y (hperm.subset (by simp))
      have hyx : before y x = false := by
        obtain rfl | hmem := List.mem_cons.mp (hperm.subset (List.mem_cons_self (a := y)))
        · exact h.irrefl y hy
        · exact hx₁ y hmem
      have hxy : before x y = false := by
        obtain rfl | hmem := List.mem_cons.mp (hperm.symm.subset (List.mem_cons_self (a := x)))
        · exact h.irrefl x hx
        · exact hy₁ x hmem
      have hheads := hties x hx
      rw [List.filter_cons_of_pos (tied_eq_true.mpr ⟨hxy, hyx⟩),
        List.filter_cons_of_pos (tied_eq_true.mpr ⟨h.irrefl x hx, h.irrefl x hx⟩)] at hheads
      obtain rfl : y = x := (List.cons.inj hheads).1
      have htails : ys = xs := by
        refine ih (fun a ha => hsub a (by simp [ha])) hperm.cons_inv hx₂ hy₂ fun a ha => ?_
        have hties := hties a ha
        by_cases hay : tied before a y = true
        · rw [List.filter_cons_of_pos hay, List.filter_cons_of_pos hay] at hties
          exact (List.cons.inj hties).2
        · rwa [List.filter_cons_of_neg hay, List.filter_cons_of_neg hay] at hties
      rw [htails]

end Sorting

/-- The answer that counts as "before". -/
def isYes : Value → Bool
  | .boolean true => true
  | _ => false

lemma sortWith_eq (precedes : Value → Value → Value) (items : List Value) :
    sortWith precedes items = sortBy (fun a b => isYes (precedes a b)) items := by
  have hyes : ∀ v : Value, (v == .boolean true) = isYes v := by
    intro v
    change Value.same v (.boolean true) = isYes v
    cases v with
    | boolean b => cases b <;> simp [Value.same, isYes]
    | _ => simp [Value.same, isYes]
  simp only [sortWith, hyes]

/-- Sorting by any function of two values: the result is a permutation, neighbours are in step if the
function is asymmetric on the items, and if it is a strict weak order on them then the result is the
one arrangement that is ascending and keeps ties in order. -/
theorem sortWith_arranges (precedes : Value → Value → Value) (items : List Value) :
    let before := fun a b => isYes (precedes a b)
    (sortWith precedes items).Perm items ∧
    (AsymmetricOn before items → InStep before (sortWith precedes items)) ∧
    (StrictWeakOn before items →
      Ascending before (sortWith precedes items) ∧
      SameTies before items (sortWith precedes items) ∧
      ∀ other : List Value, other.Perm items → Ascending before other →
        SameTies before items other → other = sortWith precedes items) ∧
    ∀ f : Comparator, precedes = f.before →
      Operation.sort [.list items, .function f] = .ok (.list (sortWith precedes items)) := by
  intro before
  rw [sortWith_eq]
  refine ⟨sortBy_perm, inStep_sortBy, fun h => ⟨ascending_sortBy h, ?_, ?_⟩, ?_⟩
  · exact fun a ha => filter_tied_sortBy h (fun _ hb => hb) ha
  · intro other hperm hasc hties
    refine eq_of_ascending_of_filter_tied h (fun a => mem_sortBy.mp) (hperm.trans sortBy_perm.symm)
      (ascending_sortBy h) hasc fun a ha => ?_
    rw [hties a ha, filter_tied_sortBy h (fun _ hb => hb) ha]
  · rintro f rfl
    rw [← sortWith_eq]
    rfl

/-- Pairs of a key and a tag, in which both keys occur twice. -/
def taggedPairs : List Value :=
  [.list [.ofInt 2, .string "x"], .list [.ofInt 1, .string "a"], .list [.ofInt 2, .string "y"],
    .list [.ofInt 1, .string "b"]]

/-- Compares pairs by their key. -/
def byKey : Comparator := ⟨0, false, some 0⟩

theorem sortWith_arranges_taggedPairs :
    let before := fun a b => isYes (byKey.before a b)
    AsymmetricOn before taggedPairs ∧ StrictWeakOn before taggedPairs ∧
    InStep before (sortWith byKey.before taggedPairs) ∧
    Ascending before (sortWith byKey.before taggedPairs) ∧
    SameTies before taggedPairs (sortWith byKey.before taggedPairs) ∧
    Operation.sort [.list taggedPairs, .function byKey] =
      .ok (.list (sortWith byKey.before taggedPairs)) := by
  intro before
  have hweak : StrictWeakOn before taggedPairs := by
    refine ⟨?_, ?_, ?_⟩ <;> decide
  have hasymm : AsymmetricOn before taggedPairs := hweak.asymm
  obtain ⟨-, hstep, hsorted, hsort⟩ := sortWith_arranges byKey.before taggedPairs
  exact ⟨hasymm, hweak, hstep hasymm, (hsorted hweak).1, (hsorted hweak).2.1, hsort byKey rfl⟩

end Feel.Proofs
