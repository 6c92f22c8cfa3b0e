import Feel.Pattern.Syntax
import Feel.Digits
import Feel.Text.Blank
import Feel.Text.Split
import Feel.Unicode.Addition
import Feel.Word

/-!
# Reading patterns

`Node.read?` turns the text of a pattern into its syntax. A pattern that is not well formed has none.
In verbose mode white space between the parts is skipped, and `#` starts a comment.
-/

namespace Feel.Pattern

open Feel.Text (isBlank)

/-- Skips a comment up to the end of its line. -/
def skipComment : List Char → List Char
  | [] => []
  | c :: cs => if c == '\n' then cs else skipComment cs

theorem length_skipComment_le (cs : List Char) : (skipComment cs).length ≤ cs.length := by
  induction cs with
  | nil => simp [skipComment]
  | cons c cs ih =>
    rw [skipComment]
    split <;> simp only [List.length_cons] <;> omega

/-- In verbose mode, skips white space and comments. -/
def skipBlank (verbose : Bool) (cs : List Char) : List Char :=
  match verbose, cs with
  | true, c :: rest =>
    if isBlank c then skipBlank true rest
    else if c == '#' then skipBlank true (skipComment rest)
    else c :: rest
  | _, _ => cs
termination_by cs.length
decreasing_by
  · simp
  · have := length_skipComment_le rest
    simp only [List.length_cons]
    omega

/-- The first character after the current one that is not white space. -/
def peekBlank (verbose : Bool) (cs : List Char) : Option Char :=
  if verbose then go false cs else cs.head?
where
  go (comment : Bool) : List Char → Option Char
    | [] => none
    | c :: cs =>
      if isBlank c then go comment cs
      else if !comment && c == '#' then go true cs
      else some c

/-! ### Numbers and counts -/

/-- A number below `2 ^ 32`, with white space around it. -/
def readCount? (verbose : Bool) (cs : List Char) : Option (Nat × List Char) :=
  let (ds, rest) := digits [] cs.length (cs.dropWhile isBlank)
  if Digits.isNumber ds && Digits.toNat ds < Word.count32 then
    some (Digits.toNat ds, skipBlank verbose (rest.dropWhile isBlank))
  else none
where
  digits (ds : List Char) : Nat → List Char → List Char × List Char
    | fuel + 1, c :: cs =>
      if c.isDigit then digits (c :: ds) fuel (skipBlank verbose cs) else (ds.reverse, c :: cs)
    | _, cs => (ds.reverse, cs)

/-- How often a part is repeated, and whether it is repeated as often as possible. -/
structure Repeat where
  min : Nat
  max : Option Nat
  greedy : Bool

/-- The repetition after an opening brace. -/
def readRepeat? (verbose : Bool) (cs : List Char) : Option (Repeat × List Char) := do
  let (lo, cs) ← readCount? verbose (skipBlank verbose cs)
  let (hi, cs) ← match cs with
    | ',' :: cs =>
      match skipBlank verbose cs with
      | '}' :: rest => some (none, '}' :: rest)
      | cs => (readCount? verbose cs).map fun (hi, cs) => (some hi, cs)
    | _ => some (some lo, cs)
  match cs with
  | '}' :: cs =>
    let valid := match hi with
      | some hi => lo ≤ hi
      | none => true
    if !valid then none
    else
      match skipBlank verbose cs with
      | '?' :: cs => some (⟨lo, hi, false⟩, cs)
      | cs => some (⟨lo, hi, true⟩, cs)
  | _ => none

/-! ### Escapes -/

inductive Escape where
  | literal (l : Literal)
  | assertion (a : Assertion)
  | shorthand (kind : Shorthand) (negated : Bool)
  | property (name : PropertyName) (negated : Bool)

/-- The character of a code point, if it is one. -/
def charOfCode? (n : Nat) : Option Char :=
  if n.isValidChar then some (Char.ofNat n) else none

/-- `count` hexadecimal digits, the last of which needs nothing after it. -/
def readHexDigits? (verbose : Bool) : (count : Nat) → (value : Nat) → List Char →
    Option (Nat × List Char)
  | 0, value, cs => some (value, cs)
  | count + 1, value, c :: cs => do
    let d ← Unicode.hexDigit? c
    readHexDigits? verbose count (16 * value + d) (skipBlank verbose cs)
  | _ + 1, _, [] => none

/-- Hexadecimal digits up to a closing brace. -/
def readHexBrace? (verbose : Bool) (ds : List Char) : Nat → List Char →
    Option (List Char × List Char)
  | fuel + 1, c :: cs =>
    if c == '}' then some (ds.reverse, skipBlank verbose cs)
    else if (Unicode.hexDigit? c).isSome then
      readHexBrace? verbose (c :: ds) fuel (skipBlank verbose cs)
    else none
  | _, _ => none

/-- The character written in hexadecimal after `\x`, `\u` or `\U`. -/
def readHex? (verbose : Bool) (kind : Char) (cs : List Char) : Option (Escape × List Char) :=
  match skipBlank verbose cs with
  | '{' :: cs => do
    let (ds, rest) ← readHexBrace? verbose [] (cs.length + 1) (skipBlank verbose cs)
    if ds.isEmpty then none
    else
      let c ← charOfCode? (Unicode.hexNumber ds)
      some (.literal ⟨c, false⟩, rest)
  | cs => do
    let width := if kind == 'x' then 2 else if kind == 'u' then 4 else 8
    let (n, rest) ← readHexDigits? verbose width 0 cs
    let c ← charOfCode? n
    some (.literal ⟨c, kind == 'x'⟩, rest)

/-- The text up to a closing brace. -/
def readBraced? (verbose : Bool) (name : List Char) : Nat → List Char →
    Option (List Char × List Char)
  | fuel + 1, c :: cs =>
    if c == '}' then some (name.reverse, cs)
    else readBraced? verbose (c :: name) fuel (skipBlank verbose cs)
  | _, _ => none

/-- The property that a braced text names, and whether the text itself negates it. -/
def readPropertyName (text : List Char) : PropertyName × Bool :=
  match Text.cut? ['!', '='] text with
  | some (property, value) => (.valued property value, true)
  | none =>
    match Text.cut? [':'] text with
    | some (property, value) => (.valued property value, false)
    | none =>
      match Text.cut? ['='] text with
      | some (property, value) => (.valued property value, false)
      | none => (.single text, false)

/-- The property class after `\p` or `\P`. -/
def readProperty? (verbose negated : Bool) (cs : List Char) : Option (Escape × List Char) :=
  match skipBlank verbose cs with
  | [] => none
  | '{' :: cs => do
    let (text, rest) ← readBraced? verbose [] (cs.length + 1) (skipBlank verbose cs)
    let (name, unequal) := readPropertyName text
    some (.property name (negated != unequal), rest)
  | '\\' :: _ => none
  | c :: cs => some (.property (.single [c]) negated, skipBlank verbose cs)

/-- Letters and hyphens up to a closing brace. -/
def readBoundaryName? (verbose : Bool) (name : List Char) : Nat → List Char →
    Option (List Char × List Char)
  | fuel + 1, c :: cs =>
    if c.isAlpha || c == '-' then readBoundaryName? verbose (c :: name) fuel (skipBlank verbose cs)
    else if c == '}' then some (name.reverse, cs)
    else none
  | _, _ => none

/-- The assertion after `\b`, which may be named in braces. -/
def readBoundary? (verbose : Bool) (cs : List Char) : Option (Escape × List Char) :=
  match cs with
  | '{' :: inner =>
    match skipBlank verbose inner with
    | [] => none
    | c :: rest =>
      if c.isAlpha || c == '-' then do
        let (name, rest) ← readBoundaryName? verbose [] (rest.length + 2) (c :: rest)
        let kind ← match String.ofList name with
          | "start" => some Assertion.wordStart
          | "end" => some .wordEnd
          | "start-half" => some .wordStartHalf
          | "end-half" => some .wordEndHalf
          | _ => none
        some (.assertion kind, rest)
      else some (.assertion .wordBoundary, cs)
  | _ => some (.assertion .wordBoundary, cs)

/-- ASCII characters that stand for themselves after a backslash. -/
def isEscapable (c : Char) : Bool :=
  c.toNat < 128 && !c.isAlphanum && c != '<' && c != '>'

def readEscape? (verbose : Bool) : List Char → Option (Escape × List Char)
  | [] => none
  | c :: cs =>
    let plain (code : Nat) := some (Escape.literal ⟨Char.ofNat code, false⟩, cs)
    match c with
    | 'x' | 'u' | 'U' => readHex? verbose c cs
    | 'p' => readProperty? verbose false cs
    | 'P' => readProperty? verbose true cs
    | 'd' => some (.shorthand .digit false, cs)
    | 'D' => some (.shorthand .digit true, cs)
    | 's' => some (.shorthand .space false, cs)
    | 'S' => some (.shorthand .space true, cs)
    | 'w' => some (.shorthand .word false, cs)
    | 'W' => some (.shorthand .word true, cs)
    | 'a' => plain 7
    | 'f' => plain 12
    | 't' => plain 9
    | 'n' => plain 10
    | 'r' => plain 13
    | 'v' => plain 11
    | 'A' => some (.assertion .textStart, cs)
    | 'z' => some (.assertion .textEnd, cs)
    | 'b' => readBoundary? verbose cs
    | 'B' => some (.assertion .notWordBoundary, cs)
    | '<' => some (.assertion .wordStart, cs)
    | '>' => some (.assertion .wordEnd, cs)
    | _ => if isEscapable c then some (.literal ⟨c, false⟩, cs) else none

/-! ### Brackets -/

def asciiClassNames : List String :=
  ["alnum", "alpha", "ascii", "blank", "cntrl", "digit", "graph", "lower", "print", "punct", "space",
    "upper", "word", "xdigit"]

/-- The class after an inner opening bracket, if it is a named ASCII class. -/
def readAsciiClass? : List Char → Option (ClassNode × List Char)
  | ':' :: cs =>
    let (negated, cs) := match cs with
      | '^' :: cs => (true, cs)
      | _ => (false, cs)
    match Text.splitOnce (· == ':') cs with
    | (name, some (']' :: rest)) =>
      let name := String.ofList name
      if asciiClassNames.contains name then some (.ascii name negated, rest) else none
    | _ => none
  | _ => none

/-- What waits while an inner part of brackets is read. -/
inductive ClassFrame where
  | opened (outer : List ClassNode) (negated : Bool)
  | operand (op : SetOperator) (left : ClassNode)

/-- The start of brackets: negation, leading hyphens and a leading closing bracket. -/
def readOpening? (verbose : Bool) (cs : List Char) : Option (Bool × List ClassNode × List Char) :=
  let cs := skipBlank verbose cs
  let (negated, cs) := match cs with
    | '^' :: cs => (true, skipBlank verbose cs)
    | _ => (false, cs)
  let (items, cs) := hyphens [] (cs.length + 1) cs
  match items, cs with
  | _, [] => none
  | [], ']' :: cs =>
    match skipBlank verbose cs with
    | [] => none
    | cs => some (negated, [.literal ⟨']', false⟩], cs)
  | items, cs => some (negated, items, cs)
where
  hyphens (items : List ClassNode) : Nat → List Char → List ClassNode × List Char
    | fuel + 1, '-' :: cs => hyphens (.literal ⟨'-', false⟩ :: items) fuel (skipBlank verbose cs)
    | _, cs => (items, cs)

/-- One character or escape inside brackets. -/
def readClassItem? (verbose : Bool) : List Char → Option (Escape × List Char)
  | [] => none
  | '\\' :: cs => readEscape? verbose cs
  | c :: cs => some (.literal ⟨c, false⟩, cs)

def Escape.toClass? : Escape → Option ClassNode
  | .literal l => some (.literal l)
  | .assertion _ => none
  | .shorthand kind negated => some (.shorthand kind negated)
  | .property name negated => some (.property name negated)

/-- A character, an escape or a range inside brackets. -/
def readClassRange? (verbose : Bool) (cs : List Char) : Option (ClassNode × List Char) := do
  let (first, cs) ← readClassItem? verbose cs
  let cs := skipBlank verbose cs
  match cs with
  | [] => none
  | '-' :: rest =>
    let next := peekBlank verbose rest
    if next == some ']' || next == some '-' then return (← first.toClass?, cs)
    else
      let (second, rest) ← readClassItem? verbose (skipBlank verbose rest)
      match first, second with
      | .literal lo, .literal hi => if lo.char ≤ hi.char then some (.range lo hi, rest) else none
      | _, _ => none
  | _ => return (← first.toClass?, cs)

/-- Puts a waiting operand in front of a finished union. -/
def closeOperand (frames : List ClassFrame) (items : List ClassNode) : ClassNode × List ClassFrame :=
  let right := ClassNode.ofItems items.reverse
  match frames with
  | .operand op left :: frames => (.combine op left right, frames)
  | _ => (right, frames)

/-- Brackets after their opening one. -/
def readClass? (verbose : Bool) : (fuel : Nat) → List ClassFrame → (items : List ClassNode) →
    List Char → Option (ClassNode × List Char)
  | 0, _, _, _ => none
  | fuel + 1, frames, items, cs =>
    let operator (op : SetOperator) (rest : List Char) :=
      let (left, frames) := closeOperand frames items
      readClass? verbose fuel (.operand op left :: frames) [] rest
    match skipBlank verbose cs with
    | [] => none
    | '[' :: rest =>
      match readAsciiClass? rest with
      | some (item, rest) => readClass? verbose fuel frames (item :: items) rest
      | none =>
        match readOpening? verbose rest with
        | none => none
        | some (negated, inner, rest) =>
          readClass? verbose fuel (.opened items negated :: frames) inner rest
    | ']' :: rest =>
      let (body, frames) := closeOperand frames items
      match frames with
      | [.opened _ negated] => some (.bracket negated body, rest)
      | .opened outer negated :: frames =>
        readClass? verbose fuel frames (.bracket negated body :: outer) rest
      | _ => none
    | '&' :: '&' :: rest => operator .intersection rest
    | '-' :: '-' :: rest => operator .difference rest
    | '~' :: '~' :: rest => operator .symmetricDifference rest
    | cs =>
      match readClassRange? verbose cs with
      | none => none
      | some (item, rest) => readClass? verbose fuel frames (item :: items) rest

/-! ### Groups -/

def Flag.ofChar? : Char → Option Flag
  | 'i' => some .caseless
  | 'm' => some .multiLine
  | 's' => some .dotAll
  | 'U' => some .swapGreed
  | 'u' => some .unicode
  | 'R' => some .crlf
  | 'x' => some .verbose
  | _ => none

/-- The switches up to `:` or `)`, which is given too; a switch may stand once, and so may `-`. -/
def readFlags? (negated dangling : Bool) (changes : FlagChanges) : List Char →
    Option (FlagChanges × Char × List Char)
  | [] => none
  | c :: cs =>
    if c == ':' || c == ')' then if dangling then none else some (changes.reverse, c, cs)
    else if c == '-' then if negated then none else readFlags? true true changes cs
    else
      match Flag.ofChar? c with
      | none => none
      | some flag =>
        if changes.any (·.1 == flag) then none
        else readFlags? negated false ((flag, !negated) :: changes) cs

def FlagChanges.verbose? (changes : FlagChanges) : Option Bool := changes.lookup .verbose

/-- Characters that the name of a group may start with or, further on, hold. -/
def isNameChar (first : Bool) (c : Char) : Bool :=
  c == '_' || Unicode.alphabeticChars.contains c ||
    (!first && (c == '.' || c == '[' || c == ']' || Unicode.numericChars.contains c))

def readGroupName? (cs : List Char) : Option (List Char × List Char) :=
  match Text.splitOnce (· == '>') cs with
  | (c :: name, some rest) =>
    if isNameChar true c && name.all (isNameChar false) then some (c :: name, rest) else none
  | _ => none

/-- What stands after an opening parenthesis. -/
inductive Opening where
  | capture (name : Option (List Char))
  | plain (changes : FlagChanges)
  | switch (changes : FlagChanges)

def readGroup? (verbose : Bool) (cs : List Char) : Option (Opening × List Char) :=
  match skipBlank verbose cs with
  | '?' :: '=' :: _ | '?' :: '!' :: _ | '?' :: '<' :: '=' :: _ | '?' :: '<' :: '!' :: _ => none
  | '?' :: 'P' :: '<' :: cs | '?' :: '<' :: cs => do
    let (name, rest) ← readGroupName? cs
    some (.capture (some name), rest)
  | '?' :: cs => do
    let (changes, stop, rest) ← readFlags? false false [] cs
    if stop == ':' then some (.plain changes, rest)
    else if changes.isEmpty then none
    else some (.switch changes, rest)
  | cs => some (.capture none, cs)

/-! ### Patterns -/

/-- What waits while a group is read. -/
structure GroupFrame where
  items : List Node
  branches : List Node
  index : Option Nat
  changes : FlagChanges
  verbose : Bool

/-- The state of reading: the finished items and branches of the innermost group, latest first. -/
structure Reading where
  items : List Node
  branches : List Node
  frames : List GroupFrame
  verbose : Bool
  captures : Nat
  names : List (List Char)

def Reading.finished (r : Reading) : Node :=
  Node.ofBranches (Node.ofItems r.items.reverse :: r.branches).reverse

/-- Applies a repetition to the latest item, which must not be a switch. -/
def Reading.repeated? (r : Reading) (times : Repeat) : Option Reading :=
  match r.items with
  | [] | .switch _ :: _ => none
  | item :: items =>
    some { r with items := .repetition times.min times.max times.greedy item :: items }

/-- Reads `?`, `*` or `+`, which a question mark makes reluctant. -/
def readOperator (min : Nat) (max : Option Nat) : List Char → Repeat × List Char
  | '?' :: cs => (⟨min, max, false⟩, cs)
  | cs => (⟨min, max, true⟩, cs)

def Escape.toNode : Escape → Node
  | .literal l => .literal l
  | .assertion a => .assertion a
  | .shorthand kind negated => .charClass (.shorthand kind negated)
  | .property name negated => .charClass (.property name negated)

/-- Enters a group, or takes over a switch. -/
def Reading.opened? (r : Reading) : Opening → Option Reading
  | .switch changes =>
    some { r with
      items := .switch changes :: r.items, verbose := changes.verbose?.getD r.verbose }
  | .plain changes => some (enter none changes r.names)
  | .capture none => some (enter (some (r.captures + 1)) [] r.names)
  | .capture (some name) =>
    if r.names.contains name then none
    else some (enter (some (r.captures + 1)) [] (name :: r.names))
where
  enter (index : Option Nat) (changes : FlagChanges) (names : List (List Char)) : Reading :=
    { items := [], branches := []
      frames := ⟨r.items, r.branches, index, changes, r.verbose⟩ :: r.frames
      verbose := changes.verbose?.getD r.verbose
      captures := index.getD r.captures
      names := names }

/-- Leaves a group. -/
def Reading.closed? (r : Reading) : Option Reading :=
  match r.frames with
  | [] => none
  | frame :: frames =>
    some { r with
      items := .group frame.index frame.changes r.finished :: frame.items
      branches := frame.branches
      frames := frames
      verbose := frame.verbose }

/-- Reads one part of the pattern. -/
def readPart? (r : Reading) (c : Char) (cs : List Char) : Option (Reading × List Char) :=
  let push (node : Node) (rest : List Char) := some ({ r with items := node :: r.items }, rest)
  let times (t : Repeat) (rest : List Char) := (r.repeated? t).map fun r => (r, rest)
  match c with
  | '(' => do
    let (opening, rest) ← readGroup? r.verbose cs
    return (← r.opened? opening, rest)
  | ')' => r.closed?.map fun r => (r, cs)
  | '|' =>
    some ({ r with items := [], branches := Node.ofItems r.items.reverse :: r.branches }, cs)
  | '[' => do
    let (negated, items, rest) ← readOpening? r.verbose cs
    let (node, rest) ← readClass? r.verbose (2 * rest.length + 1) [.opened [] negated] items rest
    push (.charClass node) rest
  | '?' => let (t, rest) := readOperator 0 (some 1) cs; times t rest
  | '*' => let (t, rest) := readOperator 0 none cs; times t rest
  | '+' => let (t, rest) := readOperator 1 none cs; times t rest
  | '{' => do
    let (t, rest) ← readRepeat? r.verbose cs
    times t rest
  | '\\' => do
    let (escape, rest) ← readEscape? r.verbose cs
    push escape.toNode rest
  | '.' => push .dot cs
  | '^' => push (.assertion .lineStart) cs
  | '$' => push (.assertion .lineEnd) cs
  | c => push (.literal ⟨c, false⟩) cs

/-- Reads parts until the text ends; each takes at least one character. -/
def readParts? : (fuel : Nat) → Reading → List Char → Option Reading
  | 0, _, _ => none
  | fuel + 1, r, cs =>
    match skipBlank r.verbose cs with
    | [] => some r
    | c :: cs => (readPart? r c cs).bind fun (r, cs) => readParts? fuel r cs

/-- The syntax of a pattern and the number of its capturing groups. -/
def Node.read? (verbose : Bool) (text : List Char) : Option (Node × Nat) := do
  let r ← readParts? (text.length + 1) ⟨[], [], [], verbose, 0, []⟩ text
  let node := r.finished
  if r.frames.isEmpty && node.depth ≤ nestLimit then some (node, r.captures) else none

end Feel.Pattern
