/-!
# Syntax of patterns

The parts of a regular expression as it is written: literals, classes, assertions, repetitions, groups
and switches. Nothing is resolved yet: a switch acts on what follows it in its group, and a property
is only a name.
-/

namespace Feel.Pattern

/-- A switch, such as `i` in `(?i)`. -/
inductive Flag where
  | caseless
  | multiLine
  | dotAll
  | swapGreed
  | unicode
  | crlf
  | verbose
  deriving Repr, DecidableEq

/-- Switches turned on (`true`) or off (`false`), as in `(?i-s)`. -/
abbrev FlagChanges := List (Flag × Bool)

/-- A condition on a place in the text, as it is written. -/
inductive Assertion where
  | lineStart
  | lineEnd
  | textStart
  | textEnd
  | wordBoundary
  | notWordBoundary
  | wordStart
  | wordEnd
  | wordStartHalf
  | wordEndHalf
  deriving Repr, DecidableEq

inductive Shorthand where
  | digit
  | space
  | word
  deriving Repr, DecidableEq

/-- What a property class names. -/
inductive PropertyName where
  | single (name : List Char)
  | valued (property value : List Char)
  deriving Repr, DecidableEq

/-- How two sets are combined inside brackets. -/
inductive SetOperator where
  | intersection
  | difference
  | symmetricDifference
  deriving Repr, DecidableEq

/-- A character as it is written; `byteForm` marks the two-digit form `\xNN`. -/
structure Literal where
  char : Char
  byteForm : Bool
  deriving Repr, DecidableEq

inductive ClassNode where
  | literal (l : Literal)
  | range (lo hi : Literal)
  | ascii (name : String) (negated : Bool)
  | shorthand (kind : Shorthand) (negated : Bool)
  | property (name : PropertyName) (negated : Bool)
  | union (items : List ClassNode)
  | bracket (negated : Bool) (body : ClassNode)
  | combine (op : SetOperator) (left right : ClassNode)
  deriving Repr, Inhabited

/-- A pattern as it is written. -/
inductive Node where
  | empty
  | switch (changes : FlagChanges)
  | literal (l : Literal)
  | dot
  | assertion (a : Assertion)
  | charClass (c : ClassNode)
  | repetition (min : Nat) (max : Option Nat) (greedy : Bool) (body : Node)
  | group (index : Option Nat) (changes : FlagChanges) (body : Node)
  | sequence (items : List Node)
  | alternation (items : List Node)
  deriving Repr, Inhabited

/-- The node of a list of nodes that follow each other. -/
def Node.ofItems : List Node → Node
  | [] => .empty
  | [item] => item
  | items => .sequence items

/-- The node of a list of alternatives. -/
def Node.ofBranches : List Node → Node
  | [branch] => branch
  | branches => .alternation branches

/-- The class of a list of classes side by side. -/
def ClassNode.ofItems : List ClassNode → ClassNode
  | [item] => item
  | items => .union items

mutual

/-- How deeply brackets, unions and set operators are nested. -/
def ClassNode.depth : ClassNode → Nat
  | .literal _ | .range _ _ | .ascii _ _ | .shorthand _ _ | .property _ _ => 0
  | .union [] => 0
  | .union items => ClassNode.depths items + 1
  | .bracket _ body => body.depth + 1
  | .combine _ left right => max left.depth right.depth + 1

def ClassNode.depths : List ClassNode → Nat
  | [] => 0
  | item :: items => max item.depth (ClassNode.depths items)

end

mutual

/-- How deeply groups, repetitions, sequences, alternations and brackets are nested. -/
def Node.depth : Node → Nat
  | .empty | .switch _ | .literal _ | .dot | .assertion _ => 0
  | .charClass (.shorthand _ _) | .charClass (.property _ _) => 0
  | .charClass c => c.depth
  | .repetition _ _ _ body => body.depth + 1
  | .group _ _ body => body.depth + 1
  | .sequence items => Node.depths items + 1
  | .alternation items => Node.depths items + 1

def Node.depths : List Node → Nat
  | [] => 0
  | item :: items => max item.depth (Node.depths items)

end

/-- The deepest nesting that a pattern may have. -/
def nestLimit : Nat := 250

end Feel.Pattern
