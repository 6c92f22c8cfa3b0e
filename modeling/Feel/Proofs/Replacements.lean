import Feel.Proofs.ReplacementTemplates
import Feel.Proofs.SuccessiveMatches
import Feel.Proofs.VerbatimPatterns

/-!
# Replacements

Unless a pattern is verbatim, each of its matches is replaced by the text that the replacement stands for with the
groups of that match, and all other text stays. A replacement that stands for nothing is an error, whether or
not there is a match.
-/

namespace Feel.Proofs
open Pattern

/-- What gives the flags in a call: nothing, null or a text. -/
inductive GivesFlags : List Value → String → Prop
  | absent : GivesFlags [] ""
  | null : GivesFlags [.null] ""
  | text (flags : String) : GivesFlags [.string flags] flags

lemma replace_of_givesFlags {arguments : List Value} {flags : String} (h : GivesFlags arguments flags)
    (s p r : String) : Operation.replace (.string s :: .string p :: .string r :: arguments) =
      ((substitute s p r flags).mapError .badPattern).map .string := by
  cases h with
  | absent => exact replacing_string s p r rfl
  | null => exact replacing_string s p r rfl
  | text flags => exact replacing_string s p r rfl

section Program

variable {flags pattern : String} {compiled : Pattern} {options : Flags}

lemma isCompiled_of_readProgram? {text : List Char} {prog : Program} (h : readProgram? options text = some prog) :
    IsCompiled prog := by
  obtain ⟨⟨node, groups⟩, -, h⟩ := Option.bind_eq_some_iff.mp h
  obtain ⟨⟨e, mode⟩, -, h⟩ := Option.bind_eq_some_iff.mp h
  obtain rfl := Option.some.inj h
  exact isCompiled_ofExpr e groups

/-- A pattern that is not verbatim is a program. -/
lemma exists_program_of_compile (hverbatim : 'q' ∉ flags.toList) (h : compile pattern flags = .ok (compiled, options)) :
    options.verbatim = false ∧ ∃ prog, compiled = .program prog ∧ IsCompiled prog := by
  obtain ⟨hread, htext⟩ := compile_eq_ok_iff.mp h
  have hoff : options.verbatim = false := by
    rw [← Bool.not_eq_true, (flags_of_read hread).1]
    simpa [Flags.none] using hverbatim
  simp only [ofText?, hoff, Bool.false_eq_true, if_false] at htext
  obtain ⟨prog, hprog, rfl⟩ := Option.map_eq_some_iff.mp htext
  exact ⟨hoff, prog, rfl, isCompiled_of_readProgram? hprog⟩

variable (hverbatim : 'q' ∉ flags.toList) (hcompile : compile pattern flags = .ok (compiled, options))
  (hempty : compiled.occursIn [] = false)

include hverbatim hcompile hempty

lemma substitute_eq (s r : String) : substitute s pattern r flags =
    match Template.ofReplacement? r.toList with
    | none => .error (.replacement r)
    | some template =>
      .ok (String.ofList (compiled.replace (fun groupText => Template.expand groupText template) s.toList)) := by
  obtain ⟨hoptions, -⟩ := exists_program_of_compile hverbatim hcompile
  rw [substitute, hcompile]
  simp only [Bind.bind, Except.bind, hempty, hoptions]
  cases Template.ofReplacement? r.toList <;> rfl

variable {arguments : List Value} (hflags : GivesFlags arguments flags)

include hflags

/-- Every match of a pattern that is not verbatim is replaced by what the replacement stands for with the groups
of that match, and the text between the matches is kept. This fails exactly if the replacement holds a stray
character. -/
theorem replace_expands (s r : String) :
    (HoldsStray false r.toList →
      Operation.replace (.string s :: .string pattern :: .string r :: arguments) =
        .error (.badPattern (.replacement r))) ∧
    (¬HoldsStray false r.toList →
      ∃ (prog : Program) (new : (ℕ → Option (List Char)) → List Char) (ms : List Match),
        compiled = .program prog ∧
        (∀ groupText out, Expands groupText r.toList out ↔ out = new groupText) ∧
        FindsInTurn prog none (Place.start s.toList) ms ∧ InOrder s.length 0 ms ∧
        Operation.replace (.string s :: .string pattern :: .string r :: arguments) =
          .ok (.ofChars (splice s.toList 0 (ms.map fun m => (m.whole, new (groupText s.toList m)))))) := by
  obtain ⟨-, prog, rfl, hprog⟩ := exists_program_of_compile hverbatim hcompile
  rw [replace_of_givesFlags hflags, substitute_eq hverbatim hcompile hempty, ← ofReplacement?_eq_none_iff]
  refine ⟨fun hnone => ?_, fun hsome => ?_⟩
  · rw [hnone]
    rfl
  · obtain ⟨template, htemplate⟩ := Option.ne_none_iff_exists'.mp hsome
    obtain ⟨ms, hms, horder, hreplace⟩ :=
      exists_replace_eq_splice hprog (fun groupText => Template.expand groupText template) s.toList
    refine ⟨prog, _, ms, rfl, fun groupText out => expands_iff htemplate, hms, ?_, ?_⟩
    · rwa [String.length_toList] at horder
    · rw [htemplate, ← hreplace]
      rfl

end Program

/-- Two groups of which one takes part in each match, in a replacement with an escaped dollar sign and a letter
behind a group. A dollar sign in front of a letter is an error even where there is no match. -/
theorem replace_expands_two_groups :
    ∃ (compiled : Pattern) (options : Flags), 'q' ∉ "".toList ∧ GivesFlags [] "" ∧
      compile "(a)|(b)" "" = .ok (compiled, options) ∧ compiled.occursIn [] = false ∧
      (∃ (prog : Program) (new : (ℕ → Option (List Char)) → List Char) (ms : List Match),
        compiled = .program prog ∧
        (∀ groupText out, Expands groupText "<$1\\$$2x>".toList out ↔ out = new groupText) ∧
        FindsInTurn prog none (Place.start "xaby".toList) ms ∧
        splice "xaby".toList 0 (ms.map fun m => (m.whole, new (groupText "xaby".toList m))) =
          "x<a$x><$bx>y".toList) ∧
      Operation.replace [.string "", .string "(a)|(b)", .string "$x"] =
        .error (.badPattern (.replacement "$x")) := by
  have hverbatim : 'q' ∉ "".toList := by decide
  have hchecked : (match compile "(a)|(b)" "" with
    | .ok (c, _) => c.occursIn []
    | .error _ => true) = false := by decide +kernel
  have hvalue : substitute "xaby" "(a)|(b)" "<$1\\$$2x>" "" = .ok "x<a$x><$bx>y" := by decide +kernel
  cases hcompile : compile "(a)|(b)" "" with
  | error =>
    rw [hcompile] at hchecked
    cases hchecked
  | ok pair =>
    obtain ⟨compiled, options⟩ := pair
    have hempty : compiled.occursIn [] = false := by rwa [hcompile] at hchecked
    obtain ⟨-, hreplaced⟩ :=
      replace_expands hverbatim hcompile hempty .absent "xaby" "<$1\\$$2x>"
    obtain ⟨herror, -⟩ := replace_expands hverbatim hcompile hempty .absent "" "$x"
    obtain ⟨prog, new, ms, hprog, hnew, hms, -, hall⟩ := hreplaced (by
      rw [← ofReplacement?_eq_none_iff]
      decide +kernel)
    refine ⟨compiled, options, hverbatim, .absent, rfl, hempty, ⟨prog, new, ms, hprog, hnew, hms, ?_⟩, ?_⟩
    · rw [replace_of_givesFlags .absent, hvalue] at hall
      have htext := Value.string.inj (Except.ok.inj hall)
      exact String.toList_ofList.symm.trans (congrArg String.toList htext.symm)
    · exact herror ⟨[], '$', ['x'], by decide, rfl, .inr ⟨rfl, by simp⟩⟩

end Feel.Proofs
