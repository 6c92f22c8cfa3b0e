import Feel.Operation.Arguments
import Feel.Decimal.Whole
import Feel.Text.Case

/-!
# Functions on texts

Positions and lengths count characters, from one; negative positions count from the end.
-/

namespace Feel.Operation

def string : Operation
  | [v] => (v.text.map .string).mapError .panic
  | args => (Arity.exactly 1).miscount args

theorem string_of_text {v : Value} {s : String} (h : v.text = .ok s) : string [v] = .ok (.string s) := by
  rw [string, h]
  rfl

def onTexts (f : (text needle : List Char) → Value) : Operation
  | [a, b] => do
    if anyNull [a, b] then return .null
    let a ← a.toText
    let b ← b.toText
    return f a.toList b.toList
  | args => (Arity.exactly 2).miscount args

def contains : Operation := onTexts fun text needle => .boolean (Text.contains needle text)

def startsWith : Operation := onTexts fun text needle => .boolean (Text.startsWith needle text)

def endsWith : Operation := onTexts fun text needle => .boolean (Text.endsWith needle text)

/-- The text before the first occurrence of another; empty if there is none. -/
def substringBefore : Operation := onTexts fun text needle =>
  .ofChars (((Text.cut? needle text).map Prod.fst).getD [])

/-- The text after the first occurrence of another; empty if there is none. -/
def substringAfter : Operation := onTexts fun text needle =>
  .ofChars (((Text.cut? needle text).map Prod.snd).getD [])

def onText (f : List Char → Value) : Operation
  | [.null] => .ok .null
  | [v] => do return f (← v.toText).toList
  | args => (Arity.exactly 1).miscount args

def stringLength : Operation := onText fun text => .ofDecimal (.ofInt text.length)

def upperCase : Operation := onText fun text => .ofChars (Text.upper text)

def lowerCase : Operation := onText fun text => .ofChars (Text.lower text)

/-- How many characters come before a start, which may be just behind the last one. -/
def skipped? (start : Int) (length : Nat) : Option Nat :=
  if 1 ≤ start ∧ start ≤ length + 1 then some (start - 1).toNat
  else if -length ≤ start ∧ start ≤ -1 then some (length + start).toNat
  else none

/-- The part of a text from a start, of the given length or up to the end. -/
def slice (text : List Char) (start : Int) (length : Option Value) : Except Fault Value := do
  let outside := Fault.indexOutOfBounds start text.length
  let some skip := skipped? start text.length | throw outside
  match length with
  | none => return .ofChars (text.drop skip)
  | some length =>
    let length ← (← length.toNumber).word
    if length < 0 then throw (.badArgument (.negativeLength length))
    if text.length < skip + length then throw outside
    return .ofChars ((text.drop skip).take length.toNat)

def substring : Operation
  | [v, start] => do
    if anyNull [v, start] then return .null
    let text ← v.toText
    slice text.toList (← (← start.toNumber).word) none
  | [v, start, length] => do
    if anyNull [v, start, length] then return .null
    let text ← v.toText
    slice text.toList (← (← start.toNumber).word) (some length)
  | args => (Arity.oneOf [2, 3]).miscount args

/-- The flags that an argument gives; null gives none. -/
def flagsOf : Value → Except Fault String
  | .null => .ok ""
  | v => v.toText

/-- Whether some part of a text matches a pattern. An unknown text or pattern does not match. -/
def matching (text pattern flags : Value) : Except Fault Value := do
  if text.isNull || pattern.isNull then return .boolean false
  let text ← text.toText
  let pattern ← pattern.toText
  let flags ← flagsOf flags
  let (compiled, _) ← (Pattern.compile pattern flags).mapError .badPattern
  return .boolean (compiled.occursIn text.toList)

def isMatch : Operation
  | [text, pattern] => matching text pattern .null
  | [text, pattern, flags] => matching text pattern flags
  | args => (Arity.oneOf [2, 3]).miscount args

/-- A text with every match of a pattern replaced. -/
def replacing (text pattern replacement flags : Value) : Except Fault Value := do
  if anyNull [text, pattern, replacement] then return .null
  let text ← text.toText
  let pattern ← pattern.toText
  let replacement ← replacement.toText
  let flags ← flagsOf flags
  return .string (← (Pattern.substitute text pattern replacement flags).mapError .badPattern)

def replace : Operation
  | [text, pattern, replacement] => replacing text pattern replacement .null
  | [text, pattern, replacement, flags] => replacing text pattern replacement flags
  | args => (Arity.oneOf [3, 4]).miscount args

end Feel.Operation
