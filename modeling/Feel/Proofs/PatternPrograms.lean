import Feel.Pattern.Program
import Mathlib

/-!
# Programs of patterns

An expression is written behind the code that is there and leaves it as it is. Nothing that it writes accepts or
leads to the first instruction. So a program accepts in one place only, and right after the end of the whole match
has been recorded.
-/

namespace Feel.Proofs
open Pattern

/-- The instruction does not accept, and it does not lead to the first one. -/
def IsInner : Inst → Prop
  | .chars _ next | .look _ next | .save _ next => 0 < next
  | .choice nexts => ∀ next ∈ nexts, 0 < next
  | .accept => False

/-- Inner instructions are written behind those that are there. -/
structure Grows (code longer : Array Inst) : Prop where
  size_le : code.size ≤ longer.size
  getElem?_eq : ∀ i < code.size, longer[i]? = code[i]?
  isInner : ∀ i inst, code.size ≤ i → longer[i]? = some inst → IsInner inst

/-- What was written behind the code is inner instructions, and it is not entered at the first one. -/
structure IsWritten (code : Array Inst) (written : Emitted) : Prop where
  entry_pos : 0 < written.1
  grows : Grows code written.2

/-- A step writes inner instructions in front of any instruction but the first. -/
def WritesInner (step : ℕ → Array Inst → Emitted) : Prop :=
  ∀ next code, 0 < next → 0 < code.size → IsWritten code (step next code)

/-- The first instruction accepts, and the second one leads there and records where the whole match ends. No
other one does. -/
structure EndsOnce (code : Array Inst) : Prop where
  accept : code[0]? = some .accept
  close : code[1]? = some (.save 1 0)
  isInner : ∀ i inst, 2 ≤ i → code[i]? = some inst → IsInner inst

/-- A program that accepts in one place, is entered elsewhere and records the whole match. -/
structure IsCompiled (prog : Program) : Prop where
  endsOnce : EndsOnce prog.code
  start_pos : 0 < prog.start
  groups_pos : 0 < prog.groups

/-! ### Code that grows -/

section Grows

variable {code longer : Array Inst} {inst : Inst}

lemma Grows.refl (code : Array Inst) : Grows code code where
  size_le := le_rfl
  getElem?_eq _ _ := rfl
  isInner i inst hi h := by
    rw [Array.getElem?_eq_none hi] at h
    exact nomatch h

lemma Grows.trans {longest : Array Inst} (h : Grows code longer) (h' : Grows longer longest) :
    Grows code longest where
  size_le := h.size_le.trans h'.size_le
  getElem?_eq i hi := by rw [h'.getElem?_eq i (hi.trans_le h.size_le), h.getElem?_eq i hi]
  isInner i inst hi hinst := by
    by_cases hlt : i < longer.size
    · rw [h'.getElem?_eq i hlt] at hinst
      exact h.isInner i inst hi hinst
    · exact h'.isInner i inst (not_lt.mp hlt) hinst

lemma grows_push (hinst : IsInner inst) (code : Array Inst) : Grows code (code.push inst) where
  size_le := by rw [Array.size_push]; exact Nat.le_succ _
  getElem?_eq i hi := by rw [Array.getElem?_push, if_neg hi.ne]
  isInner i other hi h := by
    rw [Array.getElem?_push] at h
    split_ifs at h
    · exact Option.some.inj h ▸ hinst
    · rw [Array.getElem?_eq_none hi] at h
      exact nomatch h

/-- An instruction that was kept free at the end of the code is written after those behind it. -/
lemma Grows.setIfInBounds (h : Grows (code.push .accept) longer) (hinst : IsInner inst) :
    Grows code (longer.setIfInBounds code.size inst) where
  size_le := by
    have hle := h.size_le
    rw [Array.size_push] at hle
    rw [Array.size_setIfInBounds]
    omega
  getElem?_eq i hi := by
    rw [Array.getElem?_setIfInBounds, if_neg hi.ne', h.getElem?_eq i (by rw [Array.size_push]; omega),
      Array.getElem?_push, if_neg hi.ne]
  isInner i other hi hother := by
    rw [Array.getElem?_setIfInBounds] at hother
    split_ifs at hother with heq hlt
    · exact Option.some.inj hother ▸ hinst
    · exact h.isInner i other (by rw [Array.size_push]; omega) hother

end Grows

/-! ### Steps -/

section Steps

variable {step : ℕ → Array Inst → Emitted} {inst : Inst} {code : Array Inst} {written : Emitted}

lemma isWritten_nil {next : ℕ} (hnext : 0 < next) (code : Array Inst) : IsWritten code (next, code) :=
  ⟨hnext, .refl code⟩

lemma isWritten_emit (hinst : IsInner inst) (hcode : 0 < code.size) : IsWritten code (emit inst code) :=
  ⟨hcode, grows_push hinst code⟩

lemma WritesInner.after (h : WritesInner step) (hcode : 0 < code.size) (hw : IsWritten code written) :
    IsWritten code (step written.1 written.2) :=
  have hnext := h written.1 written.2 hw.entry_pos (hcode.trans_le hw.grows.size_le)
  ⟨hnext.entry_pos, hw.grows.trans hnext.grows⟩

lemma IsWritten.emit (hw : IsWritten code written) (hcode : 0 < code.size) (hinst : IsInner inst) :
    IsWritten code (emit inst written.2) :=
  ⟨hcode.trans_le hw.grows.size_le, hw.grows.trans (grows_push hinst written.2)⟩

lemma isInner_again (greedy : Bool) {body next : ℕ} (hbody : 0 < body) (hnext : 0 < next) :
    IsInner (.again greedy body next) := by
  cases greedy <;> simp [Inst.again, IsInner, hbody, hnext]

/-- The body of a loop is written behind the place where the loop starts again. -/
lemma WritesInner.body (h : WritesInner step) (hcode : 0 < code.size) :
    IsWritten (code.push .accept) (step code.size (code.push .accept)) :=
  h code.size (code.push .accept) hcode (by rw [Array.size_push]; omega)

lemma WritesInner.iterate (h : WritesInner step) (n : ℕ) : WritesInner (iterate step n) := by
  induction n with
  | zero => exact fun next code hnext _ => isWritten_nil hnext code
  | succ n ih => exact fun next code hnext hcode => ih.after hcode (h next code hnext hcode)

lemma WritesInner.emitLoop (h : WritesInner step) (greedy : Bool) : WritesInner (emitLoop step greedy) := by
  intro next code hnext hcode
  have hbody := h.body hcode
  exact ⟨hbody.entry_pos, hbody.grows.setIfInBounds (isInner_again greedy hbody.entry_pos hnext)⟩

lemma WritesInner.emitOption (h : WritesInner step) (greedy : Bool) {next : ℕ} (hnext : 0 < next) :
    WritesInner (emitOption step greedy next) := by
  intro inner code hinner hcode
  have hbody := h inner code hinner hcode
  exact hbody.emit hcode (isInner_again greedy hbody.entry_pos hnext)

end Steps

/-! ### Expressions -/

mutual

theorem writesInner_compile (e : Expr) : WritesInner e.compile := by
  intro next code hnext hcode
  match e with
  | .empty =>
    rw [Expr.compile]
    exact isWritten_nil hnext code
  | .chars set =>
    rw [Expr.compile]
    exact isWritten_emit hnext hcode
  | .look condition =>
    rw [Expr.compile]
    exact isWritten_emit hnext hcode
  | .capture index body =>
    rw [Expr.compile]
    have hclose : IsWritten code (emit (.save (2 * index + 1) next) code) := isWritten_emit hnext hcode
    have hbody := (writesInner_compile body).after hcode hclose
    exact hbody.emit hcode hbody.entry_pos
  | .sequence items =>
    rw [Expr.compile]
    exact writesInner_compileAll items next code hnext hcode
  | .alternation items =>
    rw [Expr.compile]
    obtain ⟨hentries, hgrows⟩ := writesInner_compileEach items next code hnext hcode
    have hchoice : IsInner (.choice (Expr.compileEach items next code).1) := hentries
    exact ⟨hcode.trans_le hgrows.size_le, hgrows.trans (grows_push hchoice _)⟩
  | .repetition 0 none greedy body =>
    rw [Expr.compile]
    split
    · have hloop := (writesInner_compile body).emitLoop greedy next code hnext hcode
      exact hloop.emit hcode (isInner_again greedy hloop.entry_pos hnext)
    · have hbody := (writesInner_compile body).body hcode
      exact ⟨hcode, hbody.grows.setIfInBounds (isInner_again greedy hbody.entry_pos hnext)⟩
  | .repetition (min + 1) none greedy body =>
    rw [Expr.compile]
    have hbody := writesInner_compile body
    exact (hbody.iterate min).after hcode (hbody.emitLoop greedy next code hnext hcode)
  | .repetition min (some max) greedy body =>
    rw [Expr.compile]
    have hbody := writesInner_compile body
    have hoptions := (hbody.emitOption greedy hnext).iterate (max - min) next code hnext hcode
    exact (hbody.iterate min).after hcode hoptions

theorem writesInner_compileAll (items : List Expr) : WritesInner (Expr.compileAll items) := by
  intro next code hnext hcode
  match items with
  | [] =>
    rw [Expr.compileAll]
    exact isWritten_nil hnext code
  | item :: items =>
    rw [Expr.compileAll]
    exact (writesInner_compile item).after hcode (writesInner_compileAll items next code hnext hcode)

theorem writesInner_compileEach (items : List Expr) (next : ℕ) (code : Array Inst) (hnext : 0 < next)
    (hcode : 0 < code.size) : (∀ entry ∈ (Expr.compileEach items next code).1, 0 < entry) ∧
      Grows code (Expr.compileEach items next code).2 := by
  match items with
  | [] =>
    rw [Expr.compileEach]
    exact ⟨by simp, .refl code⟩
  | item :: items =>
    rw [Expr.compileEach]
    obtain ⟨hentry, hgrows⟩ := writesInner_compile item next code hnext hcode
    obtain ⟨hentries, hgrows'⟩ := writesInner_compileEach items next _ hnext (hcode.trans_le hgrows.size_le)
    exact ⟨List.forall_mem_cons.mpr ⟨hentry, hentries⟩, hgrows.trans hgrows'⟩

end

/-! ### Programs -/

lemma Grows.endsOnce {code : Array Inst} (h : Grows #[.accept, .save 1 0] code) : EndsOnce code where
  accept := h.getElem?_eq 0 (by decide)
  close := h.getElem?_eq 1 (by decide)
  isInner i inst hi hinst := h.isInner i inst hi hinst

/-- The program of an expression accepts in one place, behind the end of the whole match. -/
theorem isCompiled_ofExpr (e : Expr) (groups : ℕ) : IsCompiled (Program.ofExpr e groups) := by
  have hbody := writesInner_compile e 1 #[.accept, .save 1 0] (by decide) (by decide)
  have hopen : IsWritten _ (emit (.save 0 _) _) := hbody.emit (by decide) hbody.entry_pos
  simp only [Program.ofExpr, Expr.compile]
  exact ⟨hopen.grows.endsOnce, hopen.entry_pos, Nat.succ_pos groups⟩

end Feel.Proofs
