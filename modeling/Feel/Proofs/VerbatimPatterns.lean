import Feel.Proofs.NullArguments
import Feel.Proofs.TextSearch

/-!
# Verbatim patterns

With the flag `q` a pattern is the text to look for, and the other flags but `i` do not matter. Such a pattern
matches where a text contains it, and replacing it replaces each of its occurrences, from left to right and
without overlaps, by the replacement as it is written.
-/

namespace Feel.Proofs
open Pattern

/-! ### Flags -/

/-- The letters that stand for flags. -/
def flagLetters : List Char := ['s', 'm', 'i', 'x', 'q']

section Flags

variable {flags read : Flags} {cs : List Char}

lemma exists_read (flags : Flags) (h : ∀ c ∈ cs, c ∈ flagLetters) : ∃ read, flags.read cs = .ok read := by
  induction cs generalizing flags with
  | nil => exact ⟨flags, rfl⟩
  | cons c cs ih =>
    have hc : c ∈ flagLetters := h c List.mem_cons_self
    simp only [flagLetters, List.mem_cons, List.not_mem_nil, or_false] at hc
    obtain rfl | rfl | rfl | rfl | rfl := hc <;> exact ih _ fun d hd => h d (List.mem_cons_of_mem _ hd)

/-- A flag is set if it was set before or its letter is in the text. -/
lemma flags_of_read (h : flags.read cs = .ok read) :
    (read.verbatim = true ↔ flags.verbatim = true ∨ 'q' ∈ cs) ∧
      (read.caseless = true ↔ flags.caseless = true ∨ 'i' ∈ cs) := by
  fun_induction Flags.read flags cs with
  | case1 flags =>
    obtain rfl := Except.ok.inj h
    simp
  | case2 flags cs ih => simpa using ih h
  | case3 flags cs ih => simpa using ih h
  | case4 flags cs ih => simpa using ih h
  | case5 flags cs ih => simpa using ih h
  | case6 flags cs ih => simpa using ih h
  | case7 => exact nomatch h

lemma compile_eq_ok_iff {text letters : String} {pattern : Pattern} : compile text letters = .ok (pattern, flags) ↔
    Flags.none.read letters.toList = .ok flags ∧ ofText? flags text.toList = some pattern := by
  rw [compile]
  cases Flags.none.read letters.toList with
  | error => simp [Bind.bind, Except.bind]
  | ok read =>
    simp only [Bind.bind, Except.bind, Except.ok.injEq]
    constructor
    · intro h
      cases htext : ofText? read text.toList with
      | none => simp [htext] at h
      | some new =>
        simp only [htext, Except.ok.injEq, Prod.mk.injEq] at h
        obtain ⟨rfl, rfl⟩ := h
        exact ⟨rfl, htext⟩
    · rintro ⟨rfl, htext⟩
      rw [htext]

end Flags

/-! ### Searching and replacing -/

/-- The empty text contains nothing but itself. -/
lemma occursIn_nil_verbatim {needle : List Char} :
    (Pattern.verbatim needle).occursIn [] = true ↔ needle = [] := by
  rw [occursIn, textContains_iff, List.infix_nil]

section Verbatim

variable {flags : String} (hletters : ∀ c ∈ flags.toList, c ∈ ['q', 's', 'm', 'x'])
  (hverbatim : 'q' ∈ flags.toList)

include hletters hverbatim

/-- The pattern is the text itself. -/
lemma compile_verbatim (p : String) :
    ∃ options, options.verbatim = true ∧ compile p flags = .ok (.verbatim p.toList, options) := by
  have hknown : ∀ c ∈ flags.toList, c ∈ flagLetters := by
    intro c hc
    have hsome := hletters c hc
    simp only [flagLetters, List.mem_cons, List.not_mem_nil, or_false] at hsome ⊢
    tauto
  have hcased : 'i' ∉ flags.toList := fun hi => absurd (hletters 'i' hi) (by decide)
  obtain ⟨options, hread⟩ := exists_read Flags.none hknown
  obtain ⟨hq, hi⟩ := flags_of_read hread
  have hoptions : options.verbatim = true := hq.mpr (.inr hverbatim)
  have hcaseless : options.caseless = false := by
    rw [← Bool.not_eq_true, hi]
    simpa [Flags.none] using hcased
  have htext : ofText? options p.toList = some (.verbatim p.toList) := by
    simp only [ofText?, hoptions, hcaseless, if_true, Bool.false_eq_true, if_false]
  exact ⟨options, hoptions, compile_eq_ok_iff.mpr ⟨hread, htext⟩⟩

lemma substitute_verbatim (s p r : String) : substitute s p r flags =
    if p = "" then .error (.matchesEmpty p)
    else .ok (String.ofList (Text.replaceAll p.toList r.toList s.toList)) := by
  obtain ⟨options, hoptions, hcompile⟩ := compile_verbatim hletters hverbatim p
  have hempty : (Pattern.verbatim p.toList).occursIn [] = decide (p = "") := by
    rw [Bool.eq_iff_iff, occursIn_nil_verbatim, decide_eq_true_iff, String.toList_eq_nil_iff]
  rw [substitute, hcompile]
  simp only [Bind.bind, Except.bind, hempty, decide_eq_true_eq, hoptions, if_true, Pattern.replace]
  split_ifs <;> rfl

/-- A verbatim pattern matches where the text contains it. Every occurrence of one that is not empty is
replaced, by the replacement as it is; the empty one cannot be replaced. -/
theorem verbatim_searches (s p r : String) :
    Operation.isMatch [.string s, .string p, .string flags] = Operation.contains [.string s, .string p] ∧
    (p ≠ "" → ∃ parts, IsSplitAt p.toList s.toList parts ∧
      Operation.replace [.string s, .string p, .string r, .string flags] =
        .ok (.ofChars (r.toList.intercalate parts))) ∧
    (p = "" → Operation.replace [.string s, .string p, .string r, .string flags] =
      .error (.badPattern (.matchesEmpty p))) := by
  have hreplace : Operation.replace [.string s, .string p, .string r, .string flags] =
      ((substitute s p r flags).mapError .badPattern).map .string := replacing_string s p r rfl
  rw [substitute_verbatim hletters hverbatim] at hreplace
  refine ⟨?_, fun hp => ?_, fun hp => ?_⟩
  · obtain ⟨options, -, hcompile⟩ := compile_verbatim hletters hverbatim p
    have hmatch : Operation.isMatch [.string s, .string p, .string flags] = _ := matching_string s p rfl
    rw [hmatch, hcompile]
    rfl
  · have hneedle : p.toList ≠ [] := mt String.toList_eq_nil_iff.mp hp
    obtain ⟨parts, hparts, hall⟩ := exists_isSplitAt_replaceAll hneedle r.toList s.toList
    refine ⟨parts, hparts, ?_⟩
    rw [hreplace, if_neg hp, hall]
    rfl
  · rw [hreplace, if_pos hp]
    rfl

end Verbatim

/-- A pattern that overlaps itself and holds white space and an open bracket, and a replacement that would name
a group. -/
theorem verbatim_searches_overlapping :
    (∀ c ∈ "xqx".toList, c ∈ ['q', 's', 'm', 'x']) ∧ 'q' ∈ "xqx".toList ∧
      Operation.isMatch [.string "[ [ [.", .string "[ [", .string "xqx"] =
        Operation.contains [.string "[ [ [.", .string "[ ["] ∧
      Operation.replace [.string "[ [ [.", .string "[ [", .string "$1\\", .string "xqx"] = .ok (.string "$1\\ [.") ∧
      Operation.replace [.string "[ [ [.", .string "", .string "$1\\", .string "xqx"] =
        .error (.badPattern (.matchesEmpty "")) := by
  have hletters : ∀ c ∈ "xqx".toList, c ∈ ['q', 's', 'm', 'x'] := by simp
  have hverbatim : 'q' ∈ "xqx".toList := by decide
  obtain ⟨hmatch, hreplace, -⟩ := verbatim_searches hletters hverbatim "[ [ [." "[ [" "$1\\"
  obtain ⟨-, -, hempty⟩ := verbatim_searches hletters hverbatim "[ [ [." "" "$1\\"
  obtain ⟨parts, hparts, hreplaced⟩ := hreplace (by decide)
  have hall : "$1\\".toList.intercalate parts = "$1\\ [.".toList := by
    rw [← hparts.replaceAll_eq (by decide)]
    decide +kernel
  rw [hall, Value.ofChars, String.ofList_toList] at hreplaced
  exact ⟨hletters, hverbatim, hmatch, hreplaced, hempty rfl⟩

end Feel.Proofs
