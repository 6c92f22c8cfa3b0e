import Feel.Builtin

/-!
# Calls by name

`tryCall` resolves a name, checks the count of arguments and runs the function. `Library.call` answers
null instead of a fault and hands a record of it to the library's sink, which may keep it, log it or
drop it. The record shows the arguments whatever the sink is, and the program stops if one of them cannot
be shown.
-/

namespace Feel

def tryCall [Zones] (name : String) (args : List Value) : Except Fault Value :=
  match Builtin.ofName? name with
  | none => .error (.unknownFunction name)
  | some f =>
    if f.arity.accepts args.length then f.run args else f.arity.miscount args

structure Diagnostic where
  /-- The name as it was called. -/
  function : String
  /-- The arguments in display form. -/
  arguments : List String
  cause : String
  deriving Repr, DecidableEq

namespace Diagnostic

/-- The record of a fault; a panic has none. -/
def ofFault (function : String) (args : List Value) : Fault → Except Panic Diagnostic
  | .panic why => .error why
  | fault => (Value.displayItems args).map fun texts => ⟨function, texts, fault.message⟩

def text (d : Diagnostic) : String :=
  d.function ++ "(" ++ ", ".intercalate d.arguments ++ "): " ++ d.cause

/-- The line that a log shows for a record. -/
def logLine (d : Diagnostic) : String := "ERROR feelib " ++ d.text

end Diagnostic

inductive Sink where
  | silent
  | log
  | memory
  deriving Repr, DecidableEq

/-- A sink and what it received, in order. -/
structure Library where
  sink : Sink
  records : List Diagnostic
  logged : List String
  deriving Repr, DecidableEq

namespace Library

def ofSink (sink : Sink) : Library := ⟨sink, [], []⟩

def record (library : Library) (d : Diagnostic) : Library :=
  match library.sink with
  | .silent => library
  | .log => { library with logged := library.logged ++ [d.logLine] }
  | .memory => { library with records := library.records ++ [d] }

/-- Calls a function; a fault makes null and is recorded. -/
def call [Zones] (library : Library) (name : String) (args : List Value) :
    Except Panic (Value × Library) :=
  match tryCall name args with
  | .ok value => .ok (value, library)
  | .error fault => (Diagnostic.ofFault name args fault).map fun d => (.null, library.record d)

end Library

end Feel
