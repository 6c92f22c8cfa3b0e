import Feel.Operation.Arguments
import Feel.Decimal.Whole
import Feel.Sequence

/-!
# Functions on lists

Positions count from one; negative ones count from the end. For most functions an unknown list is an
empty one.
-/

namespace Feel.Operation

/-- The items of a list, of which an unknown one has none. -/
def itemsOrNone : Value → Except Fault (List Value)
  | .null => .ok []
  | v => v.toItems

def wholeOf (v : Value) : Except Fault Int := do (← v.toNumber).word

def onList (f : List Value → Value) : Operation
  | [v] => do return f (← itemsOrNone v)
  | args => (Arity.exactly 1).miscount args

/-- An operation on the items of one list, of which null makes null. -/
def onKnownList (f : List Value → Value) : Operation
  | [.null] => .ok .null
  | [v] => do return f (← v.toItems)
  | args => (Arity.exactly 1).miscount args

def listContains : Operation
  | [.null, _] => .ok .null
  | [v, element] => do return .boolean ((← v.toItems).contains element)
  | args => (Arity.exactly 2).miscount args

def append : Operation
  | [] => (Arity.atLeast 1).miscount []
  | v :: more => do return .list ((← itemsOrNone v) ++ more)

def count : Operation := onList fun items => .ofDecimal (.ofInt items.length)

/-- The items from a start, of the given length or up to the end. -/
def sublistFrom (items : List Value) (start : Int) (length : Option Value) : Except Fault Value := do
  let some skip := Sequence.index? start items.length | return .list []
  match length with
  | none => return .list (items.drop skip)
  | some length =>
    let length ← wholeOf length
    if length ≤ 0 then return .list []
    if items.length < skip + length then
      throw (.indexOutOfBounds (min (start + (length - 1)) Word.max64) items.length)
    return .list ((items.drop skip).take length.toNat)

def sublist : Operation
  | [v, start] => do
    let items ← itemsOrNone v
    if anyNull [start] then return .null
    sublistFrom items (← wholeOf start) none
  | [v, start, length] => do
    let items ← itemsOrNone v
    if anyNull [start, length] then return .null
    sublistFrom items (← wholeOf start) (some length)
  | args => (Arity.oneOf [2, 3]).miscount args

/-- The items of all lists, one after the other. -/
def joined (args : List Value) : Except Fault (List Value) := do
  return (← args.mapM Value.toItems).flatten

def concatenate : Operation := fun args => do
  if anyNull args then return .null
  return .list (← joined args)

def union : Operation := fun args => do
  if anyNull args then return .null
  return .list (Sequence.distinct (← joined args))

def insertBefore : Operation
  | [v, position, item] => do
    let items ← itemsOrNone v
    if position.isNull then return .null
    match Sequence.index? (← wholeOf position) items.length with
    | some index => return .list (items.take index ++ item :: items.drop index)
    | none => return .list items
  | args => (Arity.exactly 3).miscount args

/-- A list without the item at a position, which counts from the front. -/
def remove : Operation
  | [v, position] => do
    let items ← itemsOrNone v
    if position.isNull then return .null
    let position ← wholeOf position
    if 1 ≤ position ∧ position ≤ items.length then
      return .list (items.eraseIdx (position - 1).toNat)
    throw (.indexOutOfBounds position items.length)
  | args => (Arity.exactly 2).miscount args

def reverse : Operation := onList fun items => .list items.reverse

def indexOf : Operation
  | [v, wanted] => do
    let items ← itemsOrNone v
    return .list ((Sequence.positionsOf wanted items).map fun (p : Nat) => .ofDecimal (.ofInt p))
  | args => (Arity.exactly 2).miscount args

def distinctValues : Operation := onList fun items => .list (Sequence.distinct items)

def flatten : Operation := onKnownList fun items => .list (Sequence.leavesOf items)

def flattenFirstLevel : Operation := onKnownList fun items => .list (Sequence.unnest items)

/-- A list sorted by a comparator, of whose answers only true counts. -/
def sort : Operation
  | [.null, _] => .ok .null
  | [v, f] => do
    let items ← v.toItems
    let f ← f.toComparator
    return .list (Sequence.sortWith f.before items)
  | args => (Arity.exactly 2).miscount args

def asList : Operation := fun args => .ok (.list args)

/-- The only item of a list; null if it has none or several. -/
def asElement : Operation := onKnownList fun
  | [item] => item
  | _ => .null

def maxRangeLength : Int := 10000000

/-- The whole numbers of a range, whose ends may be excluded. -/
def rangeToList : Operation
  | [openStart, start, openEnd, stop] => do
    let openStart ← openStart.toBool
    let openEnd ← openEnd.toBool
    if anyNull [start, stop] then return .list []
    let start ← wholeOf start
    let stop ← wholeOf stop
    let first := if openStart then start + 1 else start
    let last := if openEnd then stop - 1 else stop
    if Word.max64 < first ∨ last < -Word.max64 - 1 then throw .overflow
    if last - first < -Word.max64 - 1 ∨ maxRangeLength ≤ last - first then
      throw (.badArgument (.rangeTooLong first last))
    return .list ((Sequence.interval first last).map .ofInt)
  | args => (Arity.exactly 4).miscount args

def elementAt : Operation
  | [v, position] => do
    if anyNull [v, position] then return .null
    let items ← v.toItems
    let position ← wholeOf position
    match (Sequence.index? position items.length).bind (items[·]?) with
    | some item => return item
    | none => throw (.indexOutOfBounds position items.length)
  | args => (Arity.exactly 2).miscount args

end Feel.Operation
