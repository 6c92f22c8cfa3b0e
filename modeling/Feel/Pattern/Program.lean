import Feel.Pattern.Meaning

/-!
# Pattern programs

A program is an array of instructions that name their successors. `Expr.compile` writes an expression
in front of what follows it; a choice lists its successors in order of preference.
-/

namespace Feel.Pattern

inductive Inst where
  | chars (set : CharSet) (next : Nat)
  | look (condition : Look) (next : Nat)
  | save (slot next : Nat)
  | choice (nexts : List Nat)
  | accept
  deriving Repr, Inhabited

structure Program where
  code : Array Inst
  start : Nat
  groups : Nat
  deriving Repr

mutual

/-- May match the empty text. -/
def Expr.nullable : Expr → Bool
  | .empty | .look _ => true
  | .chars _ => false
  | .repetition min _ _ body => min == 0 || body.nullable
  | .capture _ body => body.nullable
  | .sequence items => Expr.allNullable items
  | .alternation items => Expr.anyNullable items

def Expr.allNullable : List Expr → Bool
  | [] => true
  | item :: items => item.nullable && Expr.allNullable items

def Expr.anyNullable : List Expr → Bool
  | [] => false
  | item :: items => item.nullable || Expr.anyNullable items

end

/-- An entry of the program and the code so far. -/
abbrev Emitted := Nat × Array Inst

/-- Adds an instruction. -/
def emit (inst : Inst) (code : Array Inst) : Emitted := (code.size, code.push inst)

/-- The choice between going on with the body and going on after it. -/
def Inst.again (greedy : Bool) (body next : Nat) : Inst :=
  .choice (if greedy then [body, next] else [next, body])

/-- Applies `step` the given number of times, each in front of the last. -/
def iterate (step : Nat → Array Inst → Emitted) : Nat → Nat → Array Inst → Emitted
  | 0, next, code => (next, code)
  | n + 1, next, code =>
    let (entry, code) := step next code
    iterate step n entry code

/-- A loop that runs its body at least once: the body, then the choice to run it again. -/
def emitLoop (step : Nat → Array Inst → Emitted) (greedy : Bool) (next : Nat) (code : Array Inst) :
    Emitted :=
  let (again, code) := emit .accept code
  let (body, code) := step again code
  (body, code.setIfInBounds again (.again greedy body next))

/-- An optional part. -/
def emitOption (step : Nat → Array Inst → Emitted) (greedy : Bool) (next inner : Nat)
    (code : Array Inst) : Emitted :=
  let (body, code) := step inner code
  emit (.again greedy body next) code

mutual

/-- Writes the expression in front of `next`. A loop whose body may be empty is an optional loop that
runs at least once, so that an empty round never comes before a non-empty one. -/
def Expr.compile : Expr → (next : Nat) → Array Inst → Emitted
  | .empty, next, code => (next, code)
  | .chars set, next, code => emit (.chars set next) code
  | .look condition, next, code => emit (.look condition next) code
  | .capture index body, next, code =>
    let (close, code) := emit (.save (2 * index + 1) next) code
    let (entry, code) := body.compile close code
    emit (.save (2 * index) entry) code
  | .sequence items, next, code => Expr.compileAll items next code
  | .alternation items, next, code =>
    let (entries, code) := Expr.compileEach items next code
    emit (.choice entries) code
  | .repetition 0 none greedy body, next, code =>
    if body.nullable then
      let (entry, code) := emitLoop body.compile greedy next code
      emit (.again greedy entry next) code
    else
      let (again, code) := emit .accept code
      let (entry, code) := body.compile again code
      (again, code.setIfInBounds again (.again greedy entry next))
  | .repetition (min + 1) none greedy body, next, code =>
    let (entry, code) := emitLoop body.compile greedy next code
    iterate body.compile min entry code
  | .repetition min (some max) greedy body, next, code =>
    let (entry, code) := iterate (emitOption body.compile greedy next) (max - min) next code
    iterate body.compile min entry code

/-- Writes expressions that follow each other. -/
def Expr.compileAll : List Expr → (next : Nat) → Array Inst → Emitted
  | [], next, code => (next, code)
  | item :: items, next, code =>
    let (entry, code) := Expr.compileAll items next code
    item.compile entry code

/-- Writes alternatives and gives their entries in order. -/
def Expr.compileEach : List Expr → (next : Nat) → Array Inst → List Nat × Array Inst
  | [], _, code => ([], code)
  | item :: items, next, code =>
    let (entry, code) := item.compile next code
    let (entries, code) := Expr.compileEach items next code
    (entry :: entries, code)

end

/-- The program of a pattern with the given number of groups; group zero is the whole match. -/
def Program.ofExpr (e : Expr) (groups : Nat) : Program :=
  let (accept, code) := emit .accept #[]
  let (entry, code) := (Expr.capture 0 e).compile accept code
  ⟨code, entry, groups + 1⟩

end Feel.Pattern
