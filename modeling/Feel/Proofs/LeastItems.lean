import Feel.Proofs.StableSort

/-!
# Least items

A predicate that compares ranks in a linear order is a strict weak order. The first least item of a list
stands first in every ascending arrangement that keeps ties in order, and it is what is left when one
goes through the list and takes each item that comes before the one kept so far.
-/

namespace Feel.Proofs

/-! ### Orders given by ranks -/

section Ranks

variable {α β : Type} [LinearOrder β] {before : α → α → Bool} {rank : α → β} {items : List α}

/-- One item comes before another if it has a lower rank. -/
def RankedBy (before : α → α → Bool) (rank : α → β) (items : List α) : Prop :=
  ∀ a ∈ items, ∀ b ∈ items, before a b = true ↔ rank a < rank b

lemma RankedBy.tied_iff (h : RankedBy before rank items) {a b : α} (ha : a ∈ items) (hb : b ∈ items) :
    tied before a b = true ↔ rank a = rank b := by
  have hab := h a ha b hb
  have hba := h b hb a ha
  rw [tied_eq_true, ← Bool.not_eq_true, ← Bool.not_eq_true, hab, hba, not_lt, not_lt]
  exact ⟨fun h => le_antisymm h.2 h.1, fun h => ⟨h.ge, h.le⟩⟩

lemma RankedBy.strictWeakOn (h : RankedBy before rank items) : StrictWeakOn before items where
  irrefl a ha := by
    rw [← Bool.not_eq_true, h a ha a ha]
    exact lt_irrefl _
  trans a ha b hb c hc hab hbc := by
    rw [h a ha b hb] at hab
    rw [h b hb c hc] at hbc
    rw [h a ha c hc]
    exact hab.trans hbc
  tied_trans a ha b hb c hc hab hbc := by
    rw [h.tied_iff ha hb] at hab
    rw [h.tied_iff hb hc] at hbc
    rw [h.tied_iff ha hc]
    exact hab.trans hbc

end Ranks

/-! ### The first least item -/

section FirstLeast

variable {α : Type} {before : α → α → Bool} {items : List α} {a : α}

/-- No item comes before this one, and it is the first of those that it is tied with. -/
structure IsFirstLeast (before : α → α → Bool) (items : List α) (a : α) : Prop where
  mem : a ∈ items
  least : ∀ b ∈ items, before b a = false
  first : (items.filter (tied before a)).head? = some a

lemma IsFirstLeast.unique {b : α} (hweak : StrictWeakOn before items) (ha : IsFirstLeast before items a)
    (hb : IsFirstLeast before items b) : a = b := by
  have htied : tied before a b = true := tied_eq_true.mpr ⟨hb.least a ha.mem, ha.least b hb.mem⟩
  have hties : items.filter (tied before a) = items.filter (tied before b) := by
    apply List.filter_congr
    intro c hc
    rw [Bool.eq_iff_iff]
    constructor
    · exact hweak.tied_trans b hb.mem a ha.mem c hc (by rwa [tied_comm])
    · exact hweak.tied_trans a ha.mem b hb.mem c hc htied
  have hfirst := ha.first
  rw [hties, hb.first] at hfirst
  exact (Option.some.inj hfirst).symm

/-- A further item takes the place of the first least one if it comes before that one. -/
lemma IsFirstLeast.append_singleton {item : α} (hweak : StrictWeakOn before (items ++ [item]))
    (h : IsFirstLeast before items a) :
    IsFirstLeast before (items ++ [item]) (if before item a then item else a) := by
  have hitem : item ∈ items ++ [item] := by simp
  have ha : a ∈ items ++ [item] := List.mem_append_left _ h.mem
  have hleast {c : α} (hc : before item c = false) (h : ∀ b ∈ items, before b c = false) :
      ∀ b ∈ items ++ [item], before b c = false := by
    simpa [or_imp, forall_and] using ⟨h, hc⟩
  split_ifs with hbefore
  · have hnone : items.filter (tied before item) = [] := by
      rw [List.filter_eq_nil_iff]
      intro b hb htied
      have hnot := hweak.not_before_trans hitem (List.mem_append_left _ hb) ha
        (tied_eq_true.mp htied).1 (h.least b hb)
      rw [hbefore] at hnot
      exact Bool.false_ne_true hnot.symm
    have hself : tied before item item = true :=
      tied_eq_true.mpr ⟨hweak.irrefl item hitem, hweak.irrefl item hitem⟩
    refine ⟨hitem, hleast (hweak.irrefl item hitem) fun b hb => ?_, ?_⟩
    · have hai : before a item = false := hweak.asymm item hitem a ha hbefore
      exact hweak.not_before_trans (List.mem_append_left _ hb) ha hitem (h.least b hb) hai
    · rw [List.filter_append, hnone, List.nil_append, List.filter_cons_of_pos hself, List.filter_nil]
      rfl
  · refine ⟨ha, hleast (by simpa using hbefore) h.least, ?_⟩
    rw [List.filter_append, List.head?_append, h.first]
    rfl

/-- The item kept by going through a list and taking each item that comes before the one kept so far. -/
lemma isFirstLeast_foldl {first : α} {rest : List α} (hweak : StrictWeakOn before (first :: rest)) :
    IsFirstLeast before (first :: rest)
      (rest.foldl (fun best item => if before item best then item else best) first) := by
  induction rest using List.reverseRecOn with
  | nil =>
    have hirrefl := hweak.irrefl first List.mem_cons_self
    have hself : tied before first first = true := tied_eq_true.mpr ⟨hirrefl, hirrefl⟩
    exact ⟨List.mem_cons_self, by simpa using hirrefl, by simp [hself]⟩
  | append_singleton rest item ih =>
    have hearlier := ih (hweak.mono fun b hb => by simp at hb ⊢; tauto)
    rw [List.foldl_append]
    exact hearlier.append_singleton hweak

/-- An ascending arrangement that keeps ties in order starts with the first least item. -/
lemma isFirstLeast_head {rest : List α} (hweak : StrictWeakOn before items)
    (hperm : (a :: rest).Perm items) (hascending : Ascending before (a :: rest))
    (hties : SameTies before items (a :: rest)) :
    IsFirstLeast before items a := by
  have ha : a ∈ items := hperm.subset List.mem_cons_self
  have hirrefl := hweak.irrefl a ha
  refine ⟨ha, fun b hb => ?_, ?_⟩
  · obtain rfl | hb := List.mem_cons.mp (hperm.symm.subset hb)
    · exact hirrefl
    · exact (List.pairwise_cons.mp hascending).1 b hb
  · rw [← hties a ha, List.filter_cons_of_pos (tied_eq_true.mpr ⟨hirrefl, hirrefl⟩)]
    rfl

end FirstLeast

end Feel.Proofs
