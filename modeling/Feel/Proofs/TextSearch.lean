import Feel.Operation.Texts
import Mathlib

/-!
# Searching texts

A text is cut at the leftmost occurrence of a needle, and a text contains the needle if there is one. An
occurrence at the very front and a missing one both leave the empty text in front of the cut; the text starts
with the needle in the first case only.
-/

namespace Feel.Proofs
open Text

/-- The needle stands between the two parts of the text, and nowhere further to the left. -/
structure IsLeftmostCut (needle text before after : List Char) : Prop where
  eq_append : text = before ++ needle ++ after
  le_length : ∀ b a, text = b ++ needle ++ a → before.length ≤ b.length

section Search

variable {needle text before after rest : List Char}

lemma dropPrefix?_append (needle rest : List Char) : dropPrefix? needle (needle ++ rest) = some rest := by
  induction needle with
  | nil => rfl
  | cons c needle ih =>
    rw [List.cons_append, dropPrefix?, if_pos rfl]
    exact ih

lemma dropPrefix?_eq_some_iff : dropPrefix? needle text = some rest ↔ text = needle ++ rest := by
  constructor
  · exact eq_append_of_dropPrefix?
  · rintro rfl
    exact dropPrefix?_append needle rest

lemma dropPrefix?_eq_none_iff : dropPrefix? needle text = none ↔ ¬needle <+: text := by
  rw [Option.eq_none_iff_forall_ne_some]
  constructor
  · rintro h ⟨rest, rfl⟩
    exact h rest (dropPrefix?_append needle rest)
  · intro h rest hrest
    exact h ⟨rest, (dropPrefix?_eq_some_iff.mp hrest).symm⟩

lemma IsLeftmostCut.unique {b a : List Char} (h : IsLeftmostCut needle text before after)
    (h' : IsLeftmostCut needle text b a) : before = b ∧ after = a := by
  have hlength : before.length = b.length :=
    le_antisymm (h.le_length b a h'.eq_append) (h'.le_length before after h.eq_append)
  have heq : before ++ needle ++ after = b ++ needle ++ a := h.eq_append.symm.trans h'.eq_append
  rw [List.append_assoc, List.append_assoc] at heq
  obtain ⟨hb, ha⟩ := List.append_inj heq hlength
  exact ⟨hb, List.append_cancel_left ha⟩

lemma isLeftmostCut_of_cut? (h : cut? needle text = some (before, after)) :
    IsLeftmostCut needle text before after where
  eq_append := cut?_eq h
  le_length := by
    induction text generalizing before after with
    | nil =>
      obtain ⟨rest, -, he⟩ := Option.map_eq_some_iff.mp h
      obtain ⟨rfl, rfl⟩ := Prod.mk.inj he
      exact fun _ _ _ => Nat.zero_le _
    | cons c text ih =>
      intro b a heq
      rw [cut?] at h
      split at h
      · obtain ⟨rfl, rfl⟩ := Prod.mk.inj (Option.some.inj h)
        exact Nat.zero_le _
      · next hnone =>
        obtain ⟨⟨before, after⟩, hcut, he⟩ := Option.map_eq_some_iff.mp h
        obtain ⟨rfl, rfl⟩ := Prod.mk.inj he
        cases b with
        | nil => exact absurd ⟨a, heq.symm⟩ (dropPrefix?_eq_none_iff.mp hnone)
        | cons x b => exact Nat.succ_le_succ (ih hcut b a (List.cons.inj heq).2)

lemma not_isInfix_of_cut? (h : cut? needle text = none) : ¬needle <:+: text := by
  induction text with
  | nil =>
    intro hoccurs
    have hfront : needle <+: [] := List.infix_nil.mp hoccurs ▸ List.nil_prefix
    exact dropPrefix?_eq_none_iff.mp (Option.map_eq_none_iff.mp h) hfront
  | cons c text ih =>
    rw [cut?] at h
    split at h
    · exact absurd h (Option.some_ne_none _)
    · next hnone =>
      rw [List.infix_cons_iff]
      rintro (hfront | hoccurs)
      · exact dropPrefix?_eq_none_iff.mp hnone hfront
      · exact ih (Option.map_eq_none_iff.mp h) hoccurs

/-- The cut is made at the leftmost occurrence. -/
lemma cut?_eq_some_iff : cut? needle text = some (before, after) ↔ IsLeftmostCut needle text before after := by
  refine ⟨isLeftmostCut_of_cut?, fun h => ?_⟩
  cases hcut : cut? needle text with
  | none => exact absurd ⟨before, after, h.eq_append.symm⟩ (not_isInfix_of_cut? hcut)
  | some parts =>
    obtain ⟨rfl, rfl⟩ := (isLeftmostCut_of_cut? hcut).unique h
    rfl

example : cut? ['a', 'a'] ['b', 'a', 'a', 'a'] = some (['b'], ['a']) := by decide

lemma cut?_eq_none_iff : cut? needle text = none ↔ ¬needle <:+: text := by
  refine ⟨not_isInfix_of_cut?, fun h => ?_⟩
  rw [Option.eq_none_iff_forall_ne_some]
  rintro ⟨before, after⟩ hcut
  exact h ⟨before, after, (cut?_eq hcut).symm⟩

lemma textContains_iff : Text.contains needle text = true ↔ needle <:+: text := by
  rw [Text.contains, ← not_iff_not, Bool.not_eq_true, Option.isSome_eq_false_iff, Option.isNone_iff_eq_none,
    cut?_eq_none_iff]

lemma startsWith_iff : startsWith needle text = true ↔ needle <+: text := by
  rw [startsWith, ← not_iff_not, Bool.not_eq_true, Option.isSome_eq_false_iff, Option.isNone_iff_eq_none,
    dropPrefix?_eq_none_iff]

lemma endsWith_iff : endsWith needle text = true ↔ needle <:+ text := by
  rw [endsWith, startsWith_iff, List.reverse_prefix]

/-- A text starts with the needle if the leftmost occurrence has nothing in front of it. -/
lemma IsLeftmostCut.isPrefix_iff (h : IsLeftmostCut needle text before after) : needle <+: text ↔ before = [] := by
  constructor
  · rintro ⟨a, ha⟩
    exact List.eq_nil_of_length_eq_zero (Nat.le_zero.mp (h.le_length [] a ha.symm))
  · rintro rfl
    exact ⟨after, h.eq_append.symm⟩

end Search

/-! ### Parts between occurrences -/

/-- The parts of a text between the occurrences of a needle, which are taken from the left and do not overlap. -/
inductive IsSplitAt (needle : List Char) : List Char → List (List Char) → Prop
  | whole {text : List Char} (h : ¬needle <:+: text) : IsSplitAt needle text [text]
  | cut {text before after : List Char} {parts : List (List Char)} (h : IsLeftmostCut needle text before after)
      (hparts : IsSplitAt needle after parts) : IsSplitAt needle text (before :: parts)

section IsSplitAt

variable {needle text : List Char} {parts : List (List Char)}

lemma IsSplitAt.ne_nil (h : IsSplitAt needle text parts) : parts ≠ [] := by
  cases h <;> exact List.cons_ne_nil _ _

lemma IsSplitAt.unique {others : List (List Char)} (h : IsSplitAt needle text parts)
    (h' : IsSplitAt needle text others) : parts = others := by
  induction h generalizing others with
  | whole hmissing =>
    cases h' with
    | whole => rfl
    | cut h' => exact absurd ⟨_, _, h'.eq_append.symm⟩ hmissing
  | cut h _ ih =>
    cases h' with
    | whole hmissing => exact absurd ⟨_, _, h.eq_append.symm⟩ hmissing
    | cut h' hparts' =>
      obtain ⟨rfl, rfl⟩ := h.unique h'
      rw [ih hparts']

/-- Replacing the needle puts the new text between the parts. -/
lemma exists_isSplitAt_replaceAll (hneedle : needle ≠ []) (new text : List Char) :
    ∃ parts, IsSplitAt needle text parts ∧ replaceAll needle new text = new.intercalate parts := by
  fun_induction replaceAll needle new text with
  | case1 text hcut => exact ⟨[text], .whole (cut?_eq_none_iff.mp hcut), List.intercalate_singleton.symm⟩
  | case2 => contradiction
  | case3 text before after hcut _ ih =>
    obtain ⟨parts, hparts, heq⟩ := ih
    refine ⟨before :: parts, .cut (isLeftmostCut_of_cut? hcut) hparts, ?_⟩
    rw [heq, List.intercalate_cons_of_ne_nil hparts.ne_nil]

lemma IsSplitAt.replaceAll_eq (h : IsSplitAt needle text parts) (hneedle : needle ≠ []) (new : List Char) :
    replaceAll needle new text = new.intercalate parts := by
  obtain ⟨others, hothers, heq⟩ := exists_isSplitAt_replaceAll hneedle new text
  rw [heq, h.unique hothers]

end IsSplitAt

/-! ### Texts that share no character with the needle -/

section Disjoint

variable {needle before : List Char} (hneedle : needle ≠ [])

include hneedle

lemma not_isInfix_of_disjoint {text : List Char} (h : text.Disjoint needle) : ¬needle <:+: text := by
  intro hoccurs
  obtain ⟨c, hc⟩ := List.exists_mem_of_ne_nil needle hneedle
  exact h (hoccurs.subset hc) hc

/-- No occurrence starts in a part that shares no character with the needle. -/
lemma isLeftmostCut_of_disjoint (h : before.Disjoint needle) (after : List Char) :
    IsLeftmostCut needle (before ++ needle ++ after) before after where
  eq_append := rfl
  le_length := by
    induction before with
    | nil => exact fun _ _ _ => Nat.zero_le _
    | cons c before ih =>
      intro b a heq
      cases b with
      | nil =>
        obtain ⟨x, needle, rfl⟩ := List.exists_cons_of_ne_nil hneedle
        obtain ⟨rfl, -⟩ := List.cons.inj heq
        exact absurd List.mem_cons_self (h List.mem_cons_self)
      | cons x b => exact Nat.succ_le_succ (ih (List.disjoint_of_disjoint_cons_left h) b a (List.cons.inj heq).2)

/-- The parts that are joined by the needle are the parts between its occurrences. -/
lemma isSplitAt_intercalate {parts : List (List Char)} (hparts : parts ≠ [])
    (h : ∀ part ∈ parts, part.Disjoint needle) : IsSplitAt needle (needle.intercalate parts) parts := by
  induction parts with
  | nil => contradiction
  | cons part parts ih =>
    have hpart := h part List.mem_cons_self
    by_cases hrest : parts = []
    · subst hrest
      rw [List.intercalate_singleton]
      exact .whole (not_isInfix_of_disjoint hneedle hpart)
    · rw [List.intercalate_cons_of_ne_nil hrest]
      exact .cut (isLeftmostCut_of_disjoint hneedle hpart _) (ih hrest fun p hp => h p (List.mem_cons_of_mem part hp))

end Disjoint

/-! ### Texts as strings -/

lemma string_eq_append_iff {s b m a : String} :
    s = b ++ m ++ a ↔ s.toList = b.toList ++ m.toList ++ a.toList := by
  rw [← String.toList_inj, String.toList_append, String.toList_append]

lemma isInfix_toList_iff {s m : String} : m.toList <:+: s.toList ↔ ∃ b a, s = b ++ m ++ a := by
  constructor
  · rintro ⟨b, a, h⟩
    refine ⟨String.ofList b, String.ofList a, string_eq_append_iff.mpr ?_⟩
    rw [String.toList_ofList, String.toList_ofList, h]
  · rintro ⟨b, a, h⟩
    exact ⟨b.toList, a.toList, (string_eq_append_iff.mp h).symm⟩

lemma isSuffix_toList_iff {s m : String} : m.toList <:+ s.toList ↔ ∃ b, s = b ++ m := by
  constructor
  · rintro ⟨b, h⟩
    refine ⟨String.ofList b, String.toList_inj.mp ?_⟩
    rw [String.toList_append, String.toList_ofList, h]
  · rintro ⟨b, rfl⟩
    exact ⟨b.toList, (String.toList_append ..).symm⟩

/-- A text that contains another consists of what is before its leftmost occurrence, the other text and what
is after it. If there is no occurrence both parts are empty. The text starts with the other if it contains it
and nothing is before it, and ends with the other if that follows some part of it. -/
theorem contains_cuts_leftmost (s m : String) :
    ∃ (found starts ends : Bool) (before after : String),
      Operation.contains [.string s, .string m] = .ok (.boolean found) ∧
      Operation.substringBefore [.string s, .string m] = .ok (.string before) ∧
      Operation.substringAfter [.string s, .string m] = .ok (.string after) ∧
      Operation.startsWith [.string s, .string m] = .ok (.boolean starts) ∧
      Operation.endsWith [.string s, .string m] = .ok (.boolean ends) ∧
      (found = true ↔ ∃ b a, s = b ++ m ++ a) ∧
      (found = true → s = before ++ m ++ after ∧ ∀ b a, s = b ++ m ++ a → before.length ≤ b.length) ∧
      (found = false → before = "" ∧ after = "") ∧
      (starts = true ↔ found = true ∧ before = "") ∧
      (ends = true ↔ ∃ b, s = b ++ m) := by
  refine ⟨_, _, _, _, _, rfl, rfl, rfl, rfl, rfl, ?_, ?_, ?_, ?_, ?_⟩
  · rw [textContains_iff, isInfix_toList_iff]
  · intro hfound
    obtain ⟨⟨before, after⟩, hcut⟩ := Option.isSome_iff_exists.mp hfound
    have hleftmost := isLeftmostCut_of_cut? hcut
    rw [hcut]
    refine ⟨string_eq_append_iff.mpr ?_, fun b a h => ?_⟩
    · rw [Option.map_some, Option.map_some, Option.getD_some, Option.getD_some, String.toList_ofList,
        String.toList_ofList]
      exact hleftmost.eq_append
    · rw [Option.map_some, Option.getD_some, String.length_ofList, ← String.length_toList]
      exact hleftmost.le_length _ _ (string_eq_append_iff.mp h)
  · intro hmissing
    have hnone : cut? m.toList s.toList = none :=
      Option.isNone_iff_eq_none.mp (Option.isSome_eq_false_iff.mp hmissing)
    rw [hnone]
    exact ⟨rfl, rfl⟩
  · rw [startsWith_iff]
    cases hcut : cut? m.toList s.toList with
    | none =>
      have hnone := cut?_eq_none_iff.mp hcut
      refine iff_of_false (fun hfront => hnone hfront.isInfix) (fun ⟨hfound, _⟩ => hnone ?_)
      exact textContains_iff.mp hfound
    | some parts =>
      have hleftmost := isLeftmostCut_of_cut? hcut
      have hfound := textContains_iff.mpr ⟨_, _, hleftmost.eq_append.symm⟩
      rw [hleftmost.isPrefix_iff, Option.map_some, Option.getD_some, ← String.toList_inj, String.toList_ofList,
        String.toList_empty]
      exact (and_iff_right hfound).symm
  · rw [endsWith_iff, isSuffix_toList_iff]

end Feel.Proofs
