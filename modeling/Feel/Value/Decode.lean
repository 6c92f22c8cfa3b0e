import Feel.Calendar.Duration.Literal
import Feel.Json
import Feel.Value

/-!
# Values of documents

Numbers of a document are rounded to the working precision. Dates, times, durations and comparators
have no notation of their own; an object with a tag for its name stands for them. Each comparator that
is read gets the next free identity.
-/

namespace Feel

/-- What a part of a document was to be read as. -/
inductive Tag where
  | number
  | date
  | time
  | dateTime
  | duration
  | comparator
  deriving Repr, DecidableEq

namespace Tag

def name : Tag → String
  | number => "number"
  | date => "@date"
  | time => "@time"
  | dateTime => "@dateAndTime"
  | duration => "@duration"
  | comparator => "@lessThan"

/-- The value of a literal under a tag, unless the name is no such tag. -/
def readLiteral? [Zones] (name literal : String) : Option (Tag × Except Fault Value) :=
  if name == Tag.date.name then some (.date, (Date.parse literal).map .date)
  else if name == Tag.time.name then some (.time, (OffsetTime.parse literal).map .time)
  else if name == Tag.dateTime.name then some (.dateTime, (DateTime.parse literal).map .dateTime)
  else if name == Tag.duration.name then some (.duration, (Duration.parse literal).map .duration)
  else none

end Tag

/-- Why a part of a document is no value. -/
structure DecodeFault where
  tag : Tag
  cause : Fault
  deriving DecidableEq

namespace Value

/-- The number of a numeral. -/
def ofNumeral (text : String) : Except Fault Value :=
  match Decimal.parse? text.toList with
  | some n => .ok (ofDecimal n)
  | none => .error (.malformed .number text)

/-- The name beside a comparator's tag that gives a position. -/
def positionName : String := "by"

/-- Whether a comparator runs from large to small. -/
def readOrder? : Json → Option Bool
  | .string "<" => some false
  | .string ">" => some true
  | _ => none

/-- The index that a position, counted from one, stands for. -/
def readPosition? : Json → Option Nat
  | .number text =>
    let digits := text.toList
    if Digits.isNumber digits then
      let position := Digits.toNat digits
      if 0 < position ∧ position < Word.count64 then some (position - 1) else none
    else none
  | _ => none

/-- The comparator of an object with the comparator's tag. -/
def readComparator (identity : Nat) (order : Json) (fields : List (String × Json)) :
    Except ArgumentFault Comparator := do
  let some descending := readOrder? order | throw .comparatorOrder
  let index ← match Entries.get? positionName fields with
    | none => pure none
    | some position =>
      match readPosition? position with
      | some index => pure (some index)
      | none => throw .comparatorPosition
  if fields.any fun (name, _) => name != Tag.comparator.name && name != positionName then
    throw .comparatorKey
  return { identity, descending, index }

/-- The object's only field, if it is a literal under a tag. -/
def readTagged? [Zones] : List (String × Json) → Option (Tag × Except Fault Value)
  | [(name, .string literal)] => Tag.readLiteral? name literal
  | _ => none

mutual

/-- The value of a document, and the next free identity. -/
def decode [Zones] (next : Nat) : Json → Except DecodeFault (Value × Nat)
  | .null => .ok (null, next)
  | .bool b => .ok (boolean b, next)
  | .number text => ((ofNumeral text).mapError fun e => ⟨.number, e⟩).map (·, next)
  | .string s => .ok (string s, next)
  | .array items => (decodeItems next items).map fun (items, next) => (list items, next)
  | .object fields =>
    match Entries.get? Tag.comparator.name fields, readTagged? fields with
    | some order, _ =>
      ((readComparator next order fields).mapError fun e => ⟨.comparator, .badArgument e⟩).map
        fun f => (function f, next + 1)
    | none, some (tag, value) => (value.mapError fun e => ⟨tag, e⟩).map (·, next)
    | none, none =>
      (decodeFields next fields).map fun (fields, next) => (context (Entries.ofList fields), next)

def decodeItems [Zones] (next : Nat) : List Json → Except DecodeFault (List Value × Nat)
  | [] => .ok ([], next)
  | item :: items => do
    let (value, next) ← decode next item
    let (values, next) ← decodeItems next items
    return (value :: values, next)

def decodeFields [Zones] (next : Nat) : List (String × Json) → Except DecodeFault (List (String × Value) × Nat)
  | [] => .ok ([], next)
  | (name, item) :: fields => do
    let (value, next) ← decode next item
    let (values, next) ← decodeFields next fields
    return ((name, value) :: values, next)

end

end Value

end Feel
