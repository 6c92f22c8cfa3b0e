import Feel.Script

/-!
# The command line

A command line asks for the list of functions or for a script to be run, which stands on the command
line or in a file.
-/

namespace Feel.CommandLine

/-- What the switches of a command line ask for. -/
structure Options where
  list : Bool
  file : Bool
  pipeMode : Bool
  verbose : Bool
  contents : Option String
  deriving Repr, DecidableEq

def Options.none : Options := ⟨false, false, false, false, .none⟩

/-- A switch by its letter. -/
def Options.withLetter? (o : Options) : Char → Option Options
  | 'l' => some { o with list := true }
  | 'f' => some { o with file := true }
  | 'p' => some { o with pipeMode := true }
  | 'v' => some { o with verbose := true }
  | _ => Option.none

/-- A switch by its name. -/
def Options.withName? (o : Options) : String → Option Options
  | "list" => o.withLetter? 'l'
  | "file" => o.withLetter? 'f'
  | "pipe-mode" => o.withLetter? 'p'
  | "verbose" => o.withLetter? 'v'
  | _ => Option.none

/-- The one argument that is no switch. -/
def Options.withContents? (o : Options) (contents : String) : Option Options :=
  if o.contents.isSome then Option.none else some { o with contents := some contents }

/-- Options that say what to do. -/
def Options.complete? (o : Options) : Option Options :=
  if o.contents.isSome || o.list then some o else Option.none

/-- Reads the arguments. A double hyphen ends the switches. -/
def Options.read? (o : Options) : List String → Option Options
  | [] => o.complete?
  | arg :: rest =>
    match arg.toList with
    | ['-', '-'] => rest.foldlM Options.withContents? o >>= Options.complete?
    | '-' :: '-' :: name => o.withName? (String.ofList name) >>= fun o => o.read? rest
    | '-' :: c :: letters => (c :: letters).foldlM Options.withLetter? o >>= fun o => o.read? rest
    | _ => o.withContents? arg >>= fun o => o.read? rest

/-- What a run of the program gives. -/
structure Outcome where
  code : Nat
  output : String
  errors : String
  deriving Repr, DecidableEq

/-- A text of lines, each with its end. -/
def unlines (texts : List String) : String := String.join (texts.map (· ++ "\n"))

/-- A function's line in the list. -/
def listing (f : Builtin) : String :=
  f.name ++ String.join (f.aliases.map fun other => ", \"" ++ other ++ "\"") ++
    " (" ++ f.arity.text ++ " arguments)"

/-- The exit code of a program that a panic stops. -/
def panicCode : Nat := 101

/-- Runs a script; a pipe shows every answer. The log has the records of faults, but no trace. -/
def runScript [Zones] (o : Options) (source : String) : Outcome :=
  let library := Library.ofSink (if o.verbose then .log else .silent)
  let (progress, fault) := Script.run library ⟨false, o.pipeMode⟩ source
  let output := unlines progress.printed
  let logged := unlines progress.library.logged
  match fault with
  | .none => ⟨0, output, logged⟩
  | some ⟨_, .panic why⟩ => ⟨panicCode, output, logged ++ unlines [why.message]⟩
  | some fault => ⟨1, output, logged ++ unlines [fault.message]⟩

/-- Does what the options ask for. The text of the file is given if there is one and it can be read. -/
def run [Zones] (o : Options) (fileText : Option String) : Outcome :=
  if o.list then ⟨0, unlines (Builtin.all.map listing), ""⟩
  else
    let contents := o.contents.getD ""
    if o.file then
      match fileText with
      | some source => runScript o source
      | .none =>
        ⟨1, "", unlines ["Failed to read the input file '" ++ contents ++
          "'. Perhaps this file does not exist?"]⟩
    else runScript o contents

/-- How the program is used. -/
def usage : String := "Usage: feelib [--file] [--pipe-mode] [--verbose] [--list] [CONTENTS]"

end Feel.CommandLine
