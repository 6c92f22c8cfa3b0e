import Feel.CommandLine

/-!
# The program

Reads the script file if one is named, and writes what the command line gives.
-/

open Feel

/-- The text of a file, if it can be read. -/
def readFile? (path : String) : IO (Option String) := do
  try
    return some (← IO.FS.readFile path)
  catch _ =>
    return none

def main (args : List String) : IO UInt32 := do
  match CommandLine.Options.none.read? args with
  | none =>
    IO.eprintln CommandLine.usage
    return 2
  | some options =>
    let fileText ← if options.file then readFile? (options.contents.getD "") else pure none
    let outcome := CommandLine.run options fileText
    IO.print outcome.output
    IO.eprint outcome.errors
    return outcome.code.toUInt32
