import Feel.Pattern.Reader
import Feel.Pattern.Search
import Feel.Pattern.Replacement

/-!
# Patterns

`Pattern.compile` turns the text of a regular expression and its flags into a pattern, `occursIn` and
`replace` apply it. With the flag `q` the text is taken verbatim.
-/

namespace Feel

/-- A pattern ready for use: a text to look for, or a program. -/
inductive Pattern where
  | verbatim (needle : List Char)
  | program (p : Pattern.Program)
  deriving Repr

namespace Pattern

/-- Why a pattern cannot be used. -/
inductive Fault where
  | unknownFlag (c : Char)
  | malformed
  | matchesEmpty (pattern : String)
  | replacement (text : String)
  deriving Repr, DecidableEq

/-- The wording of a fault; what is wrong with a malformed pattern is not said. -/
def Fault.message : Fault → String
  | .unknownFlag c => "unknown flag '" ++ String.ofList [c] ++ "'"
  | .malformed => "<regex>"
  | .matchesEmpty pattern => "'" ++ pattern ++ "' matches the empty string"
  | .replacement text => "invalid replacement '" ++ text ++ "'"

/-- The flags given beside a pattern. -/
structure Flags where
  caseless : Bool
  multiLine : Bool
  dotAll : Bool
  verbose : Bool
  verbatim : Bool
  deriving Repr, DecidableEq

def Flags.none : Flags := ⟨false, false, false, false, false⟩

/-- Adds the flags of a text of letters. -/
def Flags.read (flags : Flags) : List Char → Except Fault Flags
  | [] => .ok flags
  | 's' :: cs => Flags.read { flags with dotAll := true } cs
  | 'm' :: cs => Flags.read { flags with multiLine := true } cs
  | 'i' :: cs => Flags.read { flags with caseless := true } cs
  | 'x' :: cs => Flags.read { flags with verbose := true } cs
  | 'q' :: cs => Flags.read { flags with verbatim := true } cs
  | c :: _ => .error (.unknownFlag c)

/-- The switches that the flags turn on at the start of the pattern. -/
def Flags.mode (flags : Flags) : Mode :=
  { Mode.initial with
    caseless := flags.caseless, multiLine := flags.multiLine, dotAll := flags.dotAll }

/-- The program of a regular expression. -/
def readProgram? (flags : Flags) (text : List Char) : Option Program := do
  let (node, groups) ← Node.read? flags.verbose text
  let (e, _) ← node.meaning? flags.mode
  return Program.ofExpr e groups

/-- The program that looks for a text in any case. -/
def caselessProgram (text : List Char) : Program :=
  Program.ofExpr (.sequence (text.map fun c => .chars (caseClosure (CharSet.singleton c)))) 0

/-- The pattern of a text under flags. -/
def ofText? (flags : Flags) (text : List Char) : Option Pattern :=
  if flags.verbatim then
    some (if flags.caseless then .program (caselessProgram text) else .verbatim text)
  else (readProgram? flags text).map .program

/-- The pattern of a text under a text of flags, and those flags. -/
def compile (text flags : String) : Except Fault (Pattern × Flags) := do
  let flags ← Flags.none.read flags.toList
  match ofText? flags text.toList with
  | some pattern => .ok (pattern, flags)
  | none => .error .malformed

/-- Whether some part of the text matches. -/
def occursIn (pattern : Pattern) (text : List Char) : Bool :=
  match pattern with
  | .verbatim needle => Text.contains needle text
  | .program p => (p.search (Place.start text)).isSome

/-- The first match at or after a place that is not an empty one where the last match ended. -/
def Program.searchAfter (prog : Program) (lastEnd : Option Nat) (p : Place) : Option Match :=
  match prog.search p with
  | none => none
  | some m =>
    if m.whole.first == m.whole.last && lastEnd == some m.whole.last then
      if p.rest.isEmpty then none else prog.search p.next
    else some m

/-- The part of the text between two positions, given the place of an earlier position. -/
def Place.slice (p : Place) (span : Span) : List Char :=
  (p.rest.drop (span.first - p.position)).take (span.last - span.first)

/-- The rest of the text with every match replaced. -/
def Program.replaceFrom (prog : Program) (new : (Nat → Option (List Char)) → List Char) :
    (fuel : Nat) → (lastEnd : Option Nat) → Place → List Char
  | 0, _, p => p.rest
  | fuel + 1, lastEnd, p =>
    match prog.searchAfter lastEnd p with
    | none => p.rest
    | some m =>
      let groupText (i : Nat) := (m.groups.getD i none).map p.slice
      p.slice ⟨p.position, m.whole.first⟩ ++ new groupText ++
        prog.replaceFrom new fuel (some m.whole.last) (p.skip (m.whole.last - p.position))

/-- The text with every match replaced. At most two matches end at one position. -/
def Program.replace (prog : Program) (new : (Nat → Option (List Char)) → List Char)
    (text : List Char) : List Char :=
  prog.replaceFrom new (2 * text.length + 2) none (Place.start text)

/-- The text with every match replaced by what `new` makes of the texts of the groups. -/
def replace (pattern : Pattern) (new : (Nat → Option (List Char)) → List Char)
    (text : List Char) : List Char :=
  match pattern with
  | .verbatim needle => Text.replaceAll needle (new fun _ => none) text
  | .program p => p.replace new text

/-- The text with every match of the pattern replaced. The pattern must not match the empty text. With
the flag `q` the replacement is taken verbatim, otherwise it is translated into a template, which each match
expands. -/
def substitute (text pattern replacement flags : String) : Except Fault String := do
  let (compiled, options) ← compile pattern flags
  if compiled.occursIn [] then throw (.matchesEmpty pattern)
  if options.verbatim then
    return String.ofList (compiled.replace (fun _ => replacement.toList) text.toList)
  match Template.ofReplacement? replacement.toList with
  | none => throw (.replacement replacement)
  | some template =>
    return String.ofList
      (compiled.replace (fun groupText => Template.expand groupText template) text.toList)

end Pattern

end Feel
