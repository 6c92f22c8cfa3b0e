import Feel.Pattern.Syntax
import Feel.Unicode.Segmentation
import Feel.Unicode.Age

/-!
# Meaning of patterns

`Node.meaning?` resolves the syntax of a pattern: switches are applied to what they govern, classes
become sets of characters, and names of properties are looked up. A pattern that names an unknown
property, or that could match a part of a character, has no meaning.
-/

namespace Feel.Pattern

/-- The switches in force at a place of the pattern. -/
structure Mode where
  caseless : Bool
  multiLine : Bool
  dotAll : Bool
  swapGreed : Bool
  unicode : Bool
  crlf : Bool
  deriving Repr

/-- The switches at the start of a pattern that sets none. -/
def Mode.initial : Mode := ⟨false, false, false, false, true, false⟩

def Mode.set (mode : Mode) (flag : Flag) (on : Bool) : Mode :=
  match flag with
  | .caseless => { mode with caseless := on }
  | .multiLine => { mode with multiLine := on }
  | .dotAll => { mode with dotAll := on }
  | .swapGreed => { mode with swapGreed := on }
  | .unicode => { mode with unicode := on }
  | .crlf => { mode with crlf := on }
  | .verbose => mode

def Mode.change (mode : Mode) (changes : FlagChanges) : Mode :=
  changes.foldl (fun mode (flag, on) => mode.set flag on) mode

/-- Which side of a word boundary a condition asks for. -/
inductive WordSide where
  | boundary
  | notBoundary
  | start
  | ending
  | startHalf
  | endHalf
  deriving Repr, DecidableEq

/-- A condition on a place in the text. -/
inductive Look where
  | textStart
  | textEnd
  | lineStart
  | lineEnd
  | lineStartCrlf
  | lineEndCrlf
  | word (side : WordSide) (unicode : Bool)
  deriving Repr, DecidableEq

/-- A pattern with everything resolved. Alternatives stand in order of preference. -/
inductive Expr where
  | empty
  | chars (set : CharSet)
  | look (condition : Look)
  | repetition (min : Nat) (max : Option Nat) (greedy : Bool) (body : Expr)
  | capture (index : Nat) (body : Expr)
  | sequence (items : List Expr)
  | alternation (items : List Expr)
  deriving Repr, Inhabited

/-! ### Sets of characters -/

/-- The set with all characters that differ in case only from one of its members. -/
def caseClosure (s : CharSet) : CharSet :=
  s.union (CharSet.ofRanges <|
    (Unicode.foldClasses.filter fun chars => chars.any s.hasCode).flatMap fun chars =>
      chars.map fun n => (n, n))

/-- The members between `lo` and `hi`, moved. -/
def asciiShift (s : CharSet) (lo hi : Nat) (move : Nat → Nat) : List (Nat × Nat) :=
  s.ranges.filterMap fun (a, b) =>
    let a := max a lo
    let b := min b hi
    if a ≤ b then some (move a, move b) else none

/-- The set with the other case of its ASCII letters. -/
def asciiCaseClosure (s : CharSet) : CharSet :=
  s.union (CharSet.ofRanges (asciiShift s 65 90 (· + 32) ++ asciiShift s 97 122 (· - 32)))

/-- The case closure if the mode asks for it. -/
def Mode.fold (mode : Mode) (s : CharSet) : CharSet :=
  if !mode.caseless then s else if mode.unicode then caseClosure s else asciiCaseClosure s

/-- The complement if asked for, which only a Unicode set has. -/
def Mode.negate? (mode : Mode) (negated : Bool) (s : CharSet) : Option CharSet :=
  if negated && !mode.unicode then none else some (s.complementIf negated)

/-- The named ASCII classes. -/
def asciiClass (name : String) : CharSet :=
  match name with
  | "alnum" => ⟨[(48, 57), (65, 90), (97, 122)]⟩
  | "alpha" => ⟨[(65, 90), (97, 122)]⟩
  | "ascii" => ⟨[(0, 127)]⟩
  | "blank" => ⟨[(9, 9), (32, 32)]⟩
  | "cntrl" => ⟨[(0, 31), (127, 127)]⟩
  | "digit" => ⟨[(48, 57)]⟩
  | "graph" => ⟨[(33, 126)]⟩
  | "lower" => ⟨[(97, 122)]⟩
  | "print" => ⟨[(32, 126)]⟩
  | "punct" => ⟨[(33, 47), (58, 64), (91, 96), (123, 126)]⟩
  | "space" => ⟨[(9, 13), (32, 32)]⟩
  | "upper" => ⟨[(65, 90)]⟩
  | "word" => ⟨[(48, 57), (65, 90), (95, 95), (97, 122)]⟩
  | "xdigit" => ⟨[(48, 57), (65, 70), (97, 102)]⟩
  | _ => CharSet.empty

/-- The classes `\d`, `\s` and `\w`, or their ASCII parts. -/
def shorthandSet (unicode : Bool) : Shorthand → CharSet
  | .digit => if unicode then Unicode.category ["Nd"] else asciiClass "digit"
  | .space =>
    if unicode then Unicode.readRanges Unicode.whiteSpaceRows else asciiClass "space"
  | .word => if unicode then Unicode.wordChars else asciiClass "word"

/-- A name of a property or value in lower case, without separators and without a leading `is`. -/
def looseName (name : List Char) : String :=
  let lowered := name.map Char.toLower
  let (short, body) := match lowered with
    | 'i' :: 's' :: rest => (true, rest)
    | _ => (false, lowered)
  let kept := body.filter fun c => c.toNat < 128 && c != ' ' && c != '_' && c != '-'
  if short && kept == ['c'] then "isc" else String.ofList kept

/-- The general categories by their names, each with the codes that make it up. -/
def categoryNames : List (List String × List String) :=
  [(["c", "other"], ["Cc", "Cf", "Cn", "Co"]),
   (["cc", "control", "cntrl"], ["Cc"]),
   (["cf", "format"], ["Cf"]),
   (["cn", "unassigned"], ["Cn"]),
   (["co", "privateuse"], ["Co"]),
   (["l", "letter"], ["Lu", "Ll", "Lt", "Lm", "Lo"]),
   (["lc", "casedletter"], ["Lu", "Ll", "Lt"]),
   (["ll", "lowercaseletter"], ["Ll"]),
   (["lm", "modifierletter"], ["Lm"]),
   (["lo", "otherletter"], ["Lo"]),
   (["lt", "titlecaseletter"], ["Lt"]),
   (["lu", "uppercaseletter"], ["Lu"]),
   (["m", "mark", "combiningmark"], ["Mc", "Me", "Mn"]),
   (["mc", "spacingmark"], ["Mc"]),
   (["me", "enclosingmark"], ["Me"]),
   (["mn", "nonspacingmark"], ["Mn"]),
   (["n", "number"], ["Nd", "Nl", "No"]),
   (["nd", "decimalnumber", "digit"], ["Nd"]),
   (["nl", "letternumber"], ["Nl"]),
   (["no", "othernumber"], ["No"]),
   (["p", "punctuation", "punct"], ["Pc", "Pd", "Pe", "Pf", "Pi", "Po", "Ps"]),
   (["pc", "connectorpunctuation"], ["Pc"]),
   (["pd", "dashpunctuation"], ["Pd"]),
   (["pe", "closepunctuation"], ["Pe"]),
   (["pf", "finalpunctuation"], ["Pf"]),
   (["pi", "initialpunctuation"], ["Pi"]),
   (["po", "otherpunctuation"], ["Po"]),
   (["ps", "openpunctuation"], ["Ps"]),
   (["s", "symbol"], ["Sc", "Sk", "Sm", "So"]),
   (["sc", "currencysymbol"], ["Sc"]),
   (["sk", "modifiersymbol"], ["Sk"]),
   (["sm", "mathsymbol"], ["Sm"]),
   (["so", "othersymbol"], ["So"]),
   (["z", "separator"], ["Zl", "Zp", "Zs"]),
   (["zl", "lineseparator"], ["Zl"]),
   (["zp", "paragraphseparator"], ["Zp"]),
   (["zs", "spaceseparator"], ["Zs"])]

/-- The set of a general category, or one of the sets named like one. -/
def categorySet? (name : String) : Option CharSet :=
  match name with
  | "any" => some CharSet.all
  | "ascii" => some (CharSet.range 0 127)
  | "assigned" => some (Unicode.category ["Cn"]).complement
  | _ => (categoryNames.find? fun (names, _) => names.contains name).map fun (_, codes) =>
    Unicode.category codes

/-- The set of an age: the characters assigned by then. -/
def ageSet? (name : String) : Option CharSet :=
  let digits := name.toList
  match digits with
  | 'v' :: rest =>
    let version := Unicode.versions.find? fun (v, _) => v.toList.filter (· != '.') == rest
    version.bind fun (v, _) => Unicode.assignedBy? v
  | _ => Unicode.assignedBy? name

/-- The set that a property class names. A property comes before a category, except that `cf`, `sc`
and `lc` are categories, and a category before a script. -/
def PropertyName.set? : PropertyName → Option CharSet
  | .single name =>
    let name := looseName name
    let property := if ["cf", "sc", "lc"].contains name then none else Unicode.property? name
    property <|> categorySet? name <|> (Unicode.scriptCode? name).map Unicode.script
  | .valued property value =>
    let value := looseName value
    match looseName property with
    | "gc" | "generalcategory" => categorySet? value
    | "sc" | "script" => (Unicode.scriptCode? value).map Unicode.script
    | "scx" | "scriptextensions" => (Unicode.scriptCode? value).map Unicode.scriptExtensions
    | "age" => ageSet? value
    | "gcb" | "graphemeclusterbreak" => Unicode.graphemeBreak? value
    | "wb" | "wordbreak" => Unicode.wordBreak? value
    | "sb" | "sentencebreak" => Unicode.sentenceBreak? value
    | _ => none

/-- Without Unicode, a literal in brackets is an ASCII character. -/
def Literal.code? (mode : Mode) (l : Literal) : Option Nat :=
  if mode.unicode || l.char.toNat < 128 then some l.char.toNat else none

def SetOperator.apply : SetOperator → CharSet → CharSet → CharSet
  | .intersection => CharSet.inter
  | .difference => CharSet.diff
  | .symmetricDifference => CharSet.symmDiff

mutual

/-- The set of characters that the contents of brackets describe. -/
def ClassNode.set? (mode : Mode) : ClassNode → Option CharSet
  | .literal l => (l.code? mode).map fun n => CharSet.range n n
  | .range lo hi => do
    let a ← lo.code? mode
    let b ← hi.code? mode
    some (CharSet.range a b)
  | .ascii name negated => mode.negate? negated (mode.fold (asciiClass name))
  | .shorthand kind negated => mode.negate? negated (shorthandSet mode.unicode kind)
  | .property name negated =>
    if mode.unicode then name.set?.map fun s => (mode.fold s).complementIf negated else none
  | .union items => (ClassNode.sets? mode items).map CharSet.unions
  | .bracket negated body => (body.set? mode).bind fun s => mode.negate? negated (mode.fold s)
  | .combine op left right => do
    let s ← left.set? mode
    let t ← right.set? mode
    some (op.apply (mode.fold s) (mode.fold t))

def ClassNode.sets? (mode : Mode) : List ClassNode → Option (List CharSet)
  | [] => some []
  | item :: items => do
    let s ← item.set? mode
    let rest ← ClassNode.sets? mode items
    some (s :: rest)

end

/-! ### Expressions -/

/-- A single character. Without Unicode only ASCII letters have another case. -/
def Mode.literal? (mode : Mode) (l : Literal) : Option Expr :=
  if !mode.unicode && l.byteForm && 128 ≤ l.char.toNat then none
  else some (.chars (mode.fold (CharSet.singleton l.char)))

/-- Any character, or any but the ends of lines. -/
def Mode.dot? (mode : Mode) : Option Expr :=
  if !mode.unicode then none
  else if mode.dotAll then some (.chars CharSet.all)
  else if mode.crlf then some (.chars (CharSet.complement ⟨[(10, 10), (13, 13)]⟩))
  else some (.chars (CharSet.complement ⟨[(10, 10)]⟩))

def Mode.lookOf (mode : Mode) : Assertion → Look
  | .lineStart =>
    if !mode.multiLine then .textStart else if mode.crlf then .lineStartCrlf else .lineStart
  | .lineEnd => if !mode.multiLine then .textEnd else if mode.crlf then .lineEndCrlf else .lineEnd
  | .textStart => .textStart
  | .textEnd => .textEnd
  | .wordBoundary => .word .boundary mode.unicode
  | .notWordBoundary => .word .notBoundary mode.unicode
  | .wordStart => .word .start mode.unicode
  | .wordEnd => .word .ending mode.unicode
  | .wordStartHalf => .word .startHalf mode.unicode
  | .wordEndHalf => .word .endHalf mode.unicode

mutual

/-- Matches nothing but the empty text. -/
def Expr.onlyEmpty : Expr → Bool
  | .empty | .look _ => true
  | .chars _ => false
  | .repetition _ _ _ body => body.onlyEmpty
  | .capture _ body => body.onlyEmpty
  | .sequence items => Expr.allOnlyEmpty items
  | .alternation items => Expr.allOnlyEmpty items

def Expr.allOnlyEmpty : List Expr → Bool
  | [] => true
  | item :: items => item.onlyEmpty && Expr.allOnlyEmpty items

end

/-- A repetition. What matches only the empty text is repeated at most once. -/
def Expr.repeated (min : Nat) (max : Option Nat) (greedy : Bool) (body : Expr) : Expr :=
  let (min, max) :=
    if body.onlyEmpty then (Nat.min min 1, some (Nat.min (max.getD 1) 1)) else (min, max)
  if max == some 0 then .empty
  else if min == 1 && max == some 1 then body
  else .repetition min max greedy body

mutual

/-- The meaning of a node, and the mode for what follows it in its group. -/
def Node.meaning? (mode : Mode) : Node → Option (Expr × Mode)
  | .empty => some (.empty, mode)
  | .switch changes => some (.empty, mode.change changes)
  | .literal l => (mode.literal? l).map fun e => (e, mode)
  | .dot => mode.dot?.map fun e => (e, mode)
  | .assertion a => some (.look (mode.lookOf a), mode)
  | .charClass c => (c.set? mode).map fun s => (.chars s, mode)
  | .repetition min max greedy body =>
    (body.meaning? mode).map fun (e, inner) =>
      (e.repeated min max (greedy != mode.swapGreed), inner)
  | .group index changes body =>
    (body.meaning? (mode.change changes)).map fun (e, _) =>
      (match index with
        | some i => .capture i e
        | none => e, mode)
  | .sequence items => (Node.meanings? mode items).map fun (es, mode) => (.sequence es, mode)
  | .alternation items => (Node.meanings? mode items).map fun (es, mode) => (.alternation es, mode)

/-- The meanings of nodes in order, each in the mode that those before it leave. -/
def Node.meanings? (mode : Mode) : List Node → Option (List Expr × Mode)
  | [] => some ([], mode)
  | item :: items => do
    let (e, mode) ← item.meaning? mode
    let (es, mode) ← Node.meanings? mode items
    some (e :: es, mode)

end

end Feel.Pattern
