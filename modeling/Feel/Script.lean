import Feel.Library
import Feel.Text.Blank
import Feel.Value.Decode

/-!
# Call scripts

Each line of a script calls one function: its name, a document with the list of arguments and, after
an arrow, the value that the call is to answer. Blank lines are skipped, two slashes outside a string
start a comment. The first line that cannot be read, or whose call answers another value, ends the
script. A panic of a call, or of showing its answer, stops the program and so ends the script too.
-/

namespace Feel.Script

/-- Why a line ends the script. -/
inductive Cause where
  | expectedName
  | unknownFunction (name : String)
  | expectedArguments
  | malformedJson
  | unexpectedText (text : String)
  | badValue (why : DecodeFault)
  | unexpectedResult (function expected actual : String)
  | panic (why : Panic)
  deriving DecidableEq

/-- The wording of a cause; what is wrong with a malformed document is not said. -/
def Cause.message : Cause → String
  | .expectedName => "Expected a function name."
  | .unknownFunction name => "Unknown function '" ++ name ++ "'."
  | .expectedArguments => "Expected a JSON array of arguments."
  | .malformedJson => "Invalid JSON: <json>."
  | .unexpectedText text =>
    "Invalid JSON: unexpected text '" ++ text ++ "' after the arguments."
  | .badValue why => "Cannot decode " ++ why.tag.name ++ " value: " ++ why.cause.message
  | .unexpectedResult function expected actual =>
    "Assertion failed: " ++ function ++ " returned " ++ actual ++ ", expected " ++ expected ++ "."
  | .panic why => why.message

/-- The line that ends a script, and why. Lines count from one. -/
structure Fault where
  line : Nat
  cause : Cause
  deriving DecidableEq

def Fault.message (f : Fault) : String :=
  "Error on line " ++ natText f.line ++ ": " ++ f.cause.message

/-! ### Lines -/

/-- The lines of a text. -/
def lines : List Char → List (List Char)
  | [] => [[]]
  | c :: cs =>
    if c = '\n' then [] :: lines cs
    else
      match lines cs with
      | [] => [[c]]
      | line :: rest => (c :: line) :: rest

mutual

/-- A line without its comment. -/
def stripComment : List Char → List Char
  | [] => []
  | '/' :: '/' :: _ => []
  | '"' :: cs => '"' :: stripInString cs
  | c :: cs => c :: stripComment cs

/-- The rest of a line that starts within a string, without its comment. -/
def stripInString : List Char → List Char
  | [] => []
  | '\\' :: c :: cs => '\\' :: c :: stripInString cs
  | '"' :: cs => '"' :: stripComment cs
  | c :: cs => c :: stripInString cs

end

/-- The part of a line that counts. -/
def body (line : List Char) : List Char := Text.trim (stripComment line)

/-! ### Calls -/

/-- A call and the value that it is to answer. -/
structure Call where
  function : String
  args : List Value
  expected : Option Value

/-- The value of a document that makes up a text, and the next free identity. -/
def readValue [Zones] (next : Nat) (text : List Char) : Except Cause Value :=
  match Json.ofChars? text with
  | none => .error .malformedJson
  | some json => ((Value.decode next json).mapError .badValue).map Prod.fst

/-- The expected value after the arguments. -/
def readExpected [Zones] (next : Nat) (text : List Char) : Except Cause (Option Value) :=
  match text with
  | [] => .ok none
  | '=' :: '>' :: expected => (readValue next expected).map some
  | text => .error (.unexpectedText (String.ofList text))

/-- The call that a line's text stands for. -/
def readCall [Zones] (text : List Char) : Except Cause Call := do
  let name := Text.trim (text.takeWhile (· != '['))
  let rest := text.dropWhile (· != '[')
  if rest.isEmpty then throw .expectedArguments
  if name.isEmpty then throw .expectedName
  let function := String.ofList name
  if (Builtin.ofName? function).isNone then throw (.unknownFunction function)
  match Json.readFirst? rest with
  | some (.array items, tail) =>
    let (args, next) ← (Value.decodeItems 0 items).mapError .badValue
    return ⟨function, args, ← readExpected next (Text.trim tail)⟩
  | some _ => throw .expectedArguments
  | none => throw .malformedJson

/-! ### Running -/

/-- Where the answers of calls are shown: in a log of every call, and as output. -/
structure Showing where
  traced : Bool
  printed : Bool
  deriving Repr, DecidableEq

/-- What a script has done so far. -/
structure Progress where
  library : Library
  showing : Showing
  /-- The lines of the log. -/
  trace : List String
  printed : List String
  /-- The answers of the calls. -/
  answers : List Value

def Progress.start (library : Library) (showing : Showing) : Progress := ⟨library, showing, [], [], []⟩

/-- The trace line of a call, whose answer is given in display form. -/
def traceLine (line : Nat) (function answer : String) : String :=
  "DEBUG feelib::script line " ++ natText line ++ ": " ++ function ++ " -> " ++ answer

/-- Shows the answer of a call. -/
def Progress.show (p : Progress) (line : Nat) (function : String) (answer : Value) :
    Except Panic Progress := do
  let answered := { p with answers := p.answers ++ [answer] }
  if !p.showing.traced && !p.showing.printed then return answered
  let text ← answer.display
  return { answered with
    trace := if p.showing.traced then p.trace ++ [traceLine line function text] else p.trace
    printed := if p.showing.printed then p.printed ++ [text] else p.printed }

/-- What is wrong with an answer that is not the expected one. -/
def Call.mismatch (c : Call) (expected answer : Value) : Cause :=
  match expected.display, answer.display with
  | .ok expected, .ok answer => .unexpectedResult c.function expected answer
  | .error why, _ => .panic why
  | _, .error why => .panic why

/-- Why an answer ends the script, if it does. -/
def Call.check? (c : Call) (answer : Value) : Option Cause :=
  match c.expected with
  | none => none
  | some expected => if answer == expected then none else some (c.mismatch expected answer)

/-- Makes a call, shows its answer and compares it with the expected one. -/
def Progress.call [Zones] (p : Progress) (line : Nat) (c : Call) : Progress × Option Cause :=
  match p.library.call c.function c.args with
  | .error why => (p, some (.panic why))
  | .ok (answer, library) =>
    match { p with library }.show line c.function answer with
    | .error why => (p, some (.panic why))
    | .ok next => (next, c.check? answer)

/-- Runs a line. -/
def Progress.runLine [Zones] (p : Progress) (number : Nat) (line : List Char) :
    Progress × Option Fault :=
  let text := body line
  if text.isEmpty then (p, none)
  else
    match readCall text with
    | .error cause => (p, some ⟨number, cause⟩)
    | .ok c =>
      let (next, cause) := p.call number c
      (next, cause.map fun cause => ⟨number, cause⟩)

/-- Runs lines, the first of which has the given number, up to the first fault. -/
def Progress.runLines [Zones] (p : Progress) (number : Nat) :
    List (List Char) → Progress × Option Fault
  | [] => (p, none)
  | line :: rest =>
    match p.runLine number line with
    | (next, none) => next.runLines (number + 1) rest
    | (next, some fault) => (next, some fault)

/-- Runs a script with a library. -/
def run [Zones] (library : Library) (showing : Showing) (source : String) : Progress × Option Fault :=
  (Progress.start library showing).runLines 1 (lines source.toList)

end Feel.Script
