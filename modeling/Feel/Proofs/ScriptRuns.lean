import Feel.Proofs.CallSequences
import Feel.Script

/-!
# Runs of scripts

Whether a line of a script fails, and what its call answers, does not depend on the library. So a run is
described by the calls of the lines that it reaches, in their order, and by its first line that fails.
-/

namespace Feel.Proofs
open Script

/-! ### Lines -/

lemma lines_ne_nil (cs : List Char) : lines cs ≠ [] := by
  cases cs with
  | nil => exact List.cons_ne_nil _ _
  | cons c cs =>
    unfold lines
    split_ifs
    · exact List.cons_ne_nil _ _
    · split <;> exact List.cons_ne_nil _ _

lemma lines_newline (cs : List Char) : lines ('\n' :: cs) = [] :: lines cs := by
  rw [lines, if_pos rfl]

lemma lines_cons {c : Char} {cs line : List Char} {rest : List (List Char)} (hc : c ≠ '\n')
    (h : lines cs = line :: rest) : lines (c :: cs) = (c :: line) :: rest := by
  rw [lines, if_neg hc, h]

lemma lines_append_newline (cs ds : List Char) : lines (cs ++ '\n' :: ds) = lines cs ++ lines ds := by
  induction cs with
  | nil => exact lines_newline ds
  | cons c cs ih =>
    by_cases hc : c = '\n'
    · rw [hc, List.cons_append, lines_newline, lines_newline, ih, List.cons_append]
    · obtain ⟨line, rest, h⟩ := List.exists_cons_of_ne_nil (lines_ne_nil cs)
      rw [h, List.cons_append] at ih
      rw [List.cons_append, lines_cons hc ih, lines_cons hc h, List.cons_append]

lemma length_lines (cs : List Char) : (lines cs).length = cs.count '\n' + 1 := by
  induction cs with
  | nil => rfl
  | cons c cs ih =>
    by_cases hc : c = '\n'
    · rw [hc, lines_newline, List.length_cons, ih, List.count_cons_self]
    · obtain ⟨line, rest, h⟩ := List.exists_cons_of_ne_nil (lines_ne_nil cs)
      rw [lines_cons hc h, List.count_cons_of_ne hc, ← ih, h]
      rfl

/-! ### Single lines -/

section Lines

variable [Zones] (showing : Showing)

/-- How a call ends, without any library to record it. -/
def attemptOf (c : Script.Call) : Attempt := Request.attempt ⟨c.function, c.args⟩

/-- What a call leaves behind besides its answer: the record of its fault, if it fails, and the display
form of the answer, if that is shown. -/
structure Trail where
  records : List Diagnostic
  text? : Option String

/-- The trail of a call, unless the call or the showing of its answer stops the program. -/
def trailOf (c : Script.Call) : Except Panic Trail := do
  let records ← (attemptOf c).record
  if showing.traced || showing.printed then return ⟨records, some (← (attemptOf c).answer.display)⟩
  return ⟨records, none⟩

/-- Why a line ends the script, if it does. -/
def failure? (line : List Char) : Option Cause :=
  if (body line).isEmpty then none
  else
    match readCall (body line) with
    | .error cause => some cause
    | .ok c =>
      match trailOf showing c with
      | .error why => some (.panic why)
      | .ok _ => c.check? (attemptOf c).answer

/-- A call that a script makes, the number of its line and its trail. -/
structure Execution where
  line : ℕ
  call : Script.Call
  trail : Trail

/-- The call that a line makes, if it makes one and the program goes on. -/
def execution? (number : ℕ) (line : List Char) : Option Execution :=
  if (body line).isEmpty then none
  else
    match readCall (body line) with
    | .error _ => none
    | .ok c => (trailOf showing c).toOption.map fun trail => ⟨number, c, trail⟩

end Lines

namespace Execution

def answer [Zones] (e : Execution) : Value := (attemptOf e.call).answer

def traceLine? (e : Execution) : Option String := e.trail.text?.map (Script.traceLine e.line e.call.function)

def later (k : ℕ) (e : Execution) : Execution := ⟨e.line + k, e.call, e.trail⟩

@[simp] lemma trail_later (k : ℕ) (e : Execution) : (e.later k).trail = e.trail := rfl

@[simp] lemma answer_later [Zones] (k : ℕ) (e : Execution) : (e.later k).answer = e.answer := rfl

end Execution

def faultLater (k : ℕ) (fault : Script.Fault) : Script.Fault := ⟨fault.line + k, fault.cause⟩

/-- The lines of the log for some calls. -/
def tracesOf (showing : Showing) (calls : List Execution) : List String :=
  if showing.traced then calls.filterMap Execution.traceLine? else []

/-- The output for some calls. -/
def outputOf (showing : Showing) (calls : List Execution) : List String :=
  if showing.printed then calls.filterMap fun e => e.trail.text? else []

lemma tracesOf_append (showing : Showing) (calls more : List Execution) :
    tracesOf showing (calls ++ more) = tracesOf showing calls ++ tracesOf showing more := by
  unfold tracesOf
  split_ifs <;> simp

lemma outputOf_append (showing : Showing) (calls more : List Execution) :
    outputOf showing (calls ++ more) = outputOf showing calls ++ outputOf showing more := by
  unfold outputOf
  split_ifs <;> simp

@[simp] lemma outputOf_later (showing : Showing) (k : ℕ) (calls : List Execution) :
    outputOf showing (calls.map (Execution.later k)) = outputOf showing calls := by
  simp [outputOf, List.filterMap_map, Function.comp_def]

section Runs

variable [Zones]

/-- What a script has done after some more calls. -/
def afterCalls (p : Progress) (calls : List Execution) : Progress where
  library := recordAll p.library (calls.flatMap fun e => e.trail.records)
  showing := p.showing
  trace := p.trace ++ tracesOf p.showing calls
  printed := p.printed ++ outputOf p.showing calls
  answers := p.answers ++ calls.map Execution.answer

lemma afterCalls_nil (p : Progress) : afterCalls p [] = p := by
  simp [afterCalls, recordAll, tracesOf, outputOf]

lemma afterCalls_append (p : Progress) (calls more : List Execution) :
    afterCalls p (calls ++ more) = afterCalls (afterCalls p calls) more := by
  simp [afterCalls, recordAll, List.foldl_append, tracesOf_append, outputOf_append]

/-- The answer of a call is shown after the record of its fault is kept. -/
lemma show_eq (p : Progress) (number : ℕ) (c : Script.Call) (records : List Diagnostic)
    (h : (attemptOf c).record = .ok records) :
    { p with library := recordAll p.library records }.show number c.function (attemptOf c).answer =
      (trailOf p.showing c).map fun trail => afterCalls p [⟨number, c, trail⟩] := by
  obtain ⟨library, ⟨traced, printed⟩, trace, output, answers⟩ := p
  unfold Progress.show trailOf
  rw [h]
  cases hdisplay : (attemptOf c).answer.display <;> cases traced <;> cases printed <;>
    simp [bind, Except.bind, pure, Except.pure, Except.map, afterCalls, tracesOf, outputOf,
      Execution.traceLine?, Execution.answer]

lemma progress_call_eq (p : Progress) (number : ℕ) (c : Script.Call) :
    p.call number c =
      match trailOf p.showing c with
      | .error why => (p, some (.panic why))
      | .ok trail => (afterCalls p [⟨number, c, trail⟩], c.check? (attemptOf c).answer) := by
  have hcall : p.library.call c.function c.args = (attemptOf c).record.map fun records =>
      ((attemptOf c).answer, recordAll p.library records) :=
    call_eq p.library ⟨c.function, c.args⟩
  rw [Progress.call, hcall]
  cases hrecord : (attemptOf c).record with
  | error why =>
    rw [trailOf, hrecord]
    rfl
  | ok records =>
    dsimp only [Except.map]
    rw [show_eq p number c records hrecord]
    cases trailOf p.showing c <;> rfl

/-- A line makes its call, whether or not it fails then. -/
lemma runLine_eq (p : Progress) (number : ℕ) (line : List Char) :
    p.runLine number line = (afterCalls p (execution? p.showing number line).toList,
      (failure? p.showing line).map (⟨number, ·⟩)) := by
  unfold Progress.runLine failure? execution?
  dsimp only
  split_ifs with hbody
  · rw [Option.map_none, Option.toList_none, afterCalls_nil]
  · cases readCall (body line) with
    | error cause =>
      show _ = (afterCalls p [], _)
      rw [afterCalls_nil]
      rfl
    | ok c =>
      dsimp only
      rw [progress_call_eq]
      cases trailOf p.showing c with
      | error why =>
        show _ = (afterCalls p [], _)
        rw [afterCalls_nil]
      | ok trail => rfl

/-! ### Runs of lines -/

section Lines

variable (showing : Showing)

/-- The calls of lines of which the first one has the given number. -/
def callsFrom (number : ℕ) : List (List Char) → List Execution
  | [] => []
  | line :: rest => (execution? showing number line).toList ++ callsFrom (number + 1) rest

/-- The first failure of such lines, and where it is. -/
def failureFrom? (number : ℕ) : List (List Char) → Option Script.Fault
  | [] => none
  | line :: rest =>
    match failure? showing line with
    | some cause => some ⟨number, cause⟩
    | none => failureFrom? (number + 1) rest

/-- The lines up to the first one that fails. -/
def reached : List (List Char) → List (List Char)
  | [] => []
  | line :: rest => line :: if (failure? showing line).isSome then [] else reached rest

/-- A run makes the calls of the lines that it reaches. -/
lemma runLines_eq (p : Progress) (number : ℕ) (ls : List (List Char)) :
    p.runLines number ls = (afterCalls p (callsFrom p.showing number (reached p.showing ls)),
      failureFrom? p.showing number ls) := by
  induction ls generalizing p number with
  | nil =>
    rw [Progress.runLines]
    exact Prod.ext (afterCalls_nil p).symm rfl
  | cons line rest ih =>
    rw [Progress.runLines, runLine_eq, reached, callsFrom, afterCalls_append, failureFrom?]
    cases failure? p.showing line with
    | none => exact ih _ _
    | some cause => exact Prod.ext (afterCalls_nil _).symm rfl

variable {showing} {number : ℕ} {ls ms : List (List Char)}

lemma callsFrom_append : callsFrom showing number (ls ++ ms) =
    callsFrom showing number ls ++ callsFrom showing (number + ls.length) ms := by
  induction ls generalizing number with
  | nil => rfl
  | cons line rest ih =>
    rw [List.cons_append, callsFrom, callsFrom, ih, List.append_assoc, List.length_cons,
      Nat.add_right_comm number 1, Nat.add_assoc]

lemma execution?_add {k : ℕ} (line : List Char) :
    execution? showing (number + k) line = (execution? showing number line).map (Execution.later k) := by
  unfold execution?
  split_ifs
  · rfl
  · cases readCall (body line) with
    | error cause => rfl
    | ok c =>
      dsimp only
      cases trailOf showing c <;> rfl

lemma callsFrom_add {k : ℕ} :
    callsFrom showing (number + k) ls = (callsFrom showing number ls).map (Execution.later k) := by
  induction ls generalizing number with
  | nil => rfl
  | cons line rest ih =>
    rw [callsFrom, callsFrom, List.map_append, Nat.add_right_comm number k, ih, execution?_add]
    cases execution? showing number line <;> rfl

lemma failureFrom?_add {k : ℕ} :
    failureFrom? showing (number + k) ls = (failureFrom? showing number ls).map (faultLater k) := by
  induction ls generalizing number with
  | nil => rfl
  | cons line rest ih =>
    rw [failureFrom?, failureFrom?, Nat.add_right_comm number k, ih]
    cases failure? showing line <;> rfl

lemma failureFrom?_eq_none_iff :
    failureFrom? showing number ls = none ↔ ∀ line ∈ ls, failure? showing line = none := by
  induction ls generalizing number with
  | nil => simp [failureFrom?]
  | cons line rest ih =>
    rw [failureFrom?, List.forall_mem_cons]
    cases failure? showing line with
    | none => simp [ih]
    | some cause => simp

lemma failureFrom?_append (h : ∀ line ∈ ls, failure? showing line = none) :
    failureFrom? showing number (ls ++ ms) = failureFrom? showing (number + ls.length) ms := by
  induction ls generalizing number with
  | nil => rfl
  | cons line rest ih =>
    obtain ⟨hline, hrest⟩ := List.forall_mem_cons.mp h
    rw [List.cons_append, failureFrom?, hline, List.length_cons, Nat.add_comm rest.length,
      ← Nat.add_assoc]
    exact ih hrest

lemma failureFrom?_failing {line : List Char} {cause : Cause} (hls : ∀ l ∈ ls, failure? showing l = none)
    (hline : failure? showing line = some cause) :
    failureFrom? showing number (ls ++ line :: ms) = some ⟨number + ls.length, cause⟩ := by
  rw [failureFrom?_append hls, failureFrom?, hline]

lemma exists_of_failureFrom? {fault : Script.Fault} (h : failureFrom? showing number ls = some fault) :
    ∃ before line rest, ls = before ++ line :: rest ∧ fault.line = number + before.length ∧
      (∀ l ∈ before, failure? showing l = none) ∧ failure? showing line = some fault.cause := by
  induction ls generalizing number with
  | nil => exact nomatch h
  | cons line rest ih =>
    rw [failureFrom?] at h
    cases hline : failure? showing line with
    | some cause =>
      rw [hline] at h
      obtain rfl := Option.some.inj h
      exact ⟨[], line, rest, rfl, rfl, List.forall_mem_nil _, hline⟩
    | none =>
      rw [hline] at h
      obtain ⟨before, failing, rest, rfl, hnumber, hbefore, hfailing⟩ := ih h
      have hall : ∀ l ∈ line :: before, failure? showing l = none :=
        List.forall_mem_cons.mpr ⟨hline, hbefore⟩
      refine ⟨line :: before, failing, rest, rfl, ?_, hall, hfailing⟩
      rw [hnumber, List.length_cons]
      omega

lemma reached_append (h : ∀ line ∈ ls, failure? showing line = none) (ms : List (List Char)) :
    reached showing (ls ++ ms) = ls ++ reached showing ms := by
  induction ls with
  | nil => rfl
  | cons line rest ih =>
    obtain ⟨hline, hrest⟩ := List.forall_mem_cons.mp h
    rw [List.cons_append, reached, hline, ih hrest]
    rfl

lemma reached_eq_self (h : ∀ line ∈ ls, failure? showing line = none) : reached showing ls = ls := by
  have happend := reached_append h []
  rwa [List.append_nil, reached, List.append_nil] at happend

lemma reached_failing {line : List Char} {cause : Cause} (hls : ∀ l ∈ ls, failure? showing l = none)
    (hline : failure? showing line = some cause) : reached showing (ls ++ line :: ms) = ls ++ [line] := by
  rw [reached_append hls _, reached, hline]
  rfl

end Lines

end Runs

/-! ### Scripts -/

/-- The calls that a run of a script makes. -/
def executions [Zones] (showing : Showing) (source : String) : List Execution :=
  callsFrom showing 1 (reached showing (lines source.toList))

/-- A script ends at a line if that is the first one that fails; it makes the calls up to there. -/
def EndsAt [Zones] (showing : Showing) (source : String) (fault : Script.Fault) : Prop :=
  ∃ before line rest, lines source.toList = before ++ line :: rest ∧ fault.line = 1 + before.length ∧
    (∀ l ∈ before, failure? showing l = none) ∧ failure? showing line = some fault.cause ∧
    executions showing source = callsFrom showing 1 (before ++ [line])

section Scripts

variable [Zones] {library : Library} {showing : Showing} {source : String}

lemma run_eq (library : Library) (showing : Showing) (source : String) :
    run library showing source = (afterCalls (.start library showing) (executions showing source),
      failureFrom? showing 1 (lines source.toList)) :=
  runLines_eq _ _ _

lemma endsAt_of_run {fault : Script.Fault} (h : (run library showing source).2 = some fault) :
    EndsAt showing source fault := by
  rw [run_eq] at h
  obtain ⟨before, line, rest, hlines, hnumber, hbefore, hline⟩ := exists_of_failureFrom? h
  refine ⟨before, line, rest, hlines, hnumber, hbefore, hline, ?_⟩
  rw [executions, hlines, reached_failing hbefore hline]

lemma forall_of_run (h : (run library showing source).2 = none) :
    (∀ line ∈ lines source.toList, failure? showing line = none) ∧
      executions showing source = callsFrom showing 1 (lines source.toList) := by
  rw [run_eq] at h
  have hlines := failureFrom?_eq_none_iff.mp h
  refine ⟨hlines, ?_⟩
  rw [executions, reached_eq_self hlines]

end Scripts

lemma lines_newline_between (s t : String) :
    lines (s ++ "\n" ++ t).toList = lines s.toList ++ lines t.toList := by
  rw [← lines_append_newline]
  congr 1
  simp

/-- A run makes the calls of the lines in order, each once, and ends at the first line that fails, if there
is one. A script, a newline and another script run as the one and then the other, whose lines count on. If
the first script fails, the other one is not run. -/
theorem run_newline [Zones] (library : Library) (showing : Showing) (s t : String) :
    let first := run library showing s
    let second := run first.1.library showing t
    let whole := run library showing (s ++ "\n" ++ t)
    let shift := s.toList.count '\n' + 1
    (∀ fault, first.2 = some fault →
      whole = first ∧ executions showing (s ++ "\n" ++ t) = executions showing s) ∧
    (first.2 = none →
      executions showing (s ++ "\n" ++ t) =
        executions showing s ++ (executions showing t).map (Execution.later shift) ∧
      whole.1.library = second.1.library ∧
      whole.1.trace = first.1.trace ++ tracesOf showing ((executions showing t).map (Execution.later shift)) ∧
      whole.1.printed = first.1.printed ++ second.1.printed ∧
      whole.1.answers = first.1.answers ++ second.1.answers ∧
      whole.2 = second.2.map (faultLater shift)) ∧
    ∀ source, (run library showing source).1 =
        afterCalls (.start library showing) (executions showing source) ∧
      ((run library showing source).2 = none →
        (∀ line ∈ lines source.toList, failure? showing line = none) ∧
        executions showing source = callsFrom showing 1 (lines source.toList)) ∧
      ∀ fault, (run library showing source).2 = some fault → EndsAt showing source fault := by
  dsimp only
  refine ⟨fun fault hfault => ?_, fun hnone => ?_, fun source => ?_⟩
  · obtain ⟨before, line, rest, hlines, hnumber, hbefore, hline, -⟩ := endsAt_of_run hfault
    have hwhole : lines (s ++ "\n" ++ t).toList = before ++ line :: (rest ++ lines t.toList) := by
      rw [lines_newline_between, hlines, List.append_assoc, List.cons_append]
    have hexecutions : executions showing (s ++ "\n" ++ t) = executions showing s := by
      rw [executions, executions, hwhole, hlines, reached_failing hbefore hline,
        reached_failing hbefore hline]
    refine ⟨?_, hexecutions⟩
    rw [run_eq, run_eq, hexecutions, hwhole, hlines, failureFrom?_failing hbefore hline,
      failureFrom?_failing hbefore hline]
  · obtain ⟨hlines, hcalls⟩ := forall_of_run hnone
    have hshift : 1 + (lines s.toList).length = 1 + (s.toList.count '\n' + 1) := by rw [length_lines]
    have hexecutions : executions showing (s ++ "\n" ++ t) =
        executions showing s ++
          (executions showing t).map (Execution.later (s.toList.count '\n' + 1)) := by
      rw [executions, lines_newline_between, reached_append hlines _, callsFrom_append, hshift,
        callsFrom_add, hcalls]
      rfl
    have hfailure : failureFrom? showing 1 (lines (s ++ "\n" ++ t).toList) =
        (failureFrom? showing 1 (lines t.toList)).map (faultLater (s.toList.count '\n' + 1)) := by
      rw [lines_newline_between, failureFrom?_append hlines, hshift, failureFrom?_add]
    refine ⟨hexecutions, ?_⟩
    rw [run_eq, run_eq, run_eq, hexecutions, hfailure, afterCalls_append]
    refine ⟨?_, ?_, ?_, ?_, rfl⟩ <;>
      simp [afterCalls, Progress.start, List.flatMap_map, Function.comp_def]
  · refine ⟨?_, forall_of_run, fun _ => endsAt_of_run⟩
    rw [run_eq]

/-- Makes two calls, the first of which is recorded. -/
def twoCalls : String := "floor [true] // no number\n\nnot [true] => false"

/-- Fails at its second line, with an answer that is not the expected one. -/
def wrongAnswer : String := "// nothing\nnot [false] => false\nabs"

/-- A log of every call, and no output. -/
def logOnly : Showing := ⟨true, false⟩

/-- One after the other both scripts make three calls and fail at the fifth line. The other way round
nothing is called after the failure. -/
theorem run_newline_wrongAnswer :
    (run (.ofSink .memory) logOnly twoCalls).2 = none ∧
    (executions logOnly (twoCalls ++ "\n" ++ wrongAnswer)).map Execution.line = [1, 3, 5] ∧
    (run (.ofSink .memory) logOnly (twoCalls ++ "\n" ++ wrongAnswer)).2 =
      some ⟨5, .unexpectedResult "not" "false" "true"⟩ ∧
    (run (.ofSink .memory) logOnly (twoCalls ++ "\n" ++ wrongAnswer)).1.library.records =
      [⟨"floor", ["true"], "Type error: expected number, found boolean."⟩] ∧
    (run (.ofSink .memory) logOnly wrongAnswer).2 = some ⟨2, .unexpectedResult "not" "false" "true"⟩ ∧
    run (.ofSink .memory) logOnly (wrongAnswer ++ "\n" ++ twoCalls) =
      run (.ofSink .memory) logOnly wrongAnswer := by
  have hnone : (run (.ofSink .memory) logOnly twoCalls).2 = none := by decide +kernel
  have hfault : (run (.ofSink .memory) logOnly wrongAnswer).2 =
      some ⟨2, .unexpectedResult "not" "false" "true"⟩ := by decide +kernel
  obtain ⟨hcalls, hlibrary, -, -, -, hlater⟩ :=
    (run_newline (.ofSink .memory) logOnly twoCalls wrongAnswer).2.1 hnone
  obtain ⟨hends, -⟩ := (run_newline (.ofSink .memory) logOnly wrongAnswer twoCalls).1 _ hfault
  refine ⟨hnone, ?_, ?_, ?_, hfault, hends⟩
  · rw [hcalls]
    decide +kernel
  · rw [hlater]
    decide +kernel
  · rw [hlibrary]
    decide +kernel

end Feel.Proofs
