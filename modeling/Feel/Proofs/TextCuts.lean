import Feel.Text.Split
import Mathlib

/-!
# Texts cut once

`Text.splitOnce` cuts at the first character of a class. The cut of a text whose front has no such
character is known, and what was cut fits together again.
-/

namespace Feel.Proofs
open Text

lemma splitOnce_cons_of_pos {p : Char → Bool} {c : Char} (h : p c = true) (cs : List Char) :
    splitOnce p (c :: cs) = ([], some cs) := by
  rw [splitOnce, if_pos h]

lemma splitOnce_cons_of_neg {p : Char → Bool} {c : Char} (h : p c = false) (cs : List Char) :
    splitOnce p (c :: cs) = (c :: (splitOnce p cs).1, (splitOnce p cs).2) := by
  rw [splitOnce, if_neg (by simp [h])]

lemma splitOnce_append {p : Char → Bool} {before after : List Char} {c : Char}
    (hb : ∀ x ∈ before, p x = false) (hc : p c = true) :
    splitOnce p (before ++ c :: after) = (before, some after) := by
  induction before with
  | nil => exact splitOnce_cons_of_pos hc after
  | cons x before ih =>
    rw [List.cons_append, splitOnce_cons_of_neg (hb x (by simp)),
      ih fun y hy => hb y (List.mem_cons_of_mem x hy)]

lemma splitOnce_of_forall {p : Char → Bool} {cs : List Char} (h : ∀ x ∈ cs, p x = false) :
    splitOnce p cs = (cs, none) := by
  induction cs with
  | nil => rfl
  | cons x cs ih =>
    rw [splitOnce_cons_of_neg (h x (by simp)), ih fun y hy => h y (List.mem_cons_of_mem x hy)]

lemma eq_append_of_splitOnce {p : Char → Bool} {cs before after : List Char}
    (h : splitOnce p cs = (before, some after)) : ∃ c, p c = true ∧ cs = before ++ c :: after := by
  induction cs generalizing before with
  | nil => simp [splitOnce] at h
  | cons x cs ih =>
    by_cases hx : p x = true
    · rw [splitOnce_cons_of_pos hx, Prod.mk.injEq] at h
      obtain ⟨rfl, h⟩ := h
      obtain rfl := Option.some.inj h
      exact ⟨x, hx, rfl⟩
    · have hx : p x = false := by simpa using hx
      rw [splitOnce_cons_of_neg hx, Prod.mk.injEq] at h
      obtain ⟨rfl, h⟩ := h
      obtain ⟨c, hc, hcs⟩ := ih (Prod.ext rfl h)
      exact ⟨c, hc, congrArg (x :: ·) hcs⟩

lemma eq_of_splitOnce_none {p : Char → Bool} {cs before : List Char}
    (h : splitOnce p cs = (before, none)) : cs = before := by
  induction cs generalizing before with
  | nil => exact (Prod.mk.inj h).1
  | cons x cs ih =>
    by_cases hx : p x = true
    · rw [splitOnce_cons_of_pos hx] at h
      exact absurd (Prod.mk.inj h).2 (by simp)
    · have hx : p x = false := by simpa using hx
      rw [splitOnce_cons_of_neg hx, Prod.mk.injEq] at h
      obtain ⟨rfl, h⟩ := h
      exact congrArg (x :: ·) (ih (Prod.ext rfl h))

lemma forall_of_splitOnce_none {p : Char → Bool} {cs before : List Char}
    (h : splitOnce p cs = (before, none)) : ∀ x ∈ cs, p x = false := by
  induction cs generalizing before with
  | nil => simp
  | cons x cs ih =>
    by_cases hx : p x = true
    · rw [splitOnce_cons_of_pos hx] at h
      exact absurd (Prod.mk.inj h).2 (by simp)
    · have hx : p x = false := by simpa using hx
      rw [splitOnce_cons_of_neg hx, Prod.mk.injEq] at h
      rw [List.forall_mem_cons]
      exact ⟨hx, ih (Prod.ext rfl h.2)⟩

end Feel.Proofs
