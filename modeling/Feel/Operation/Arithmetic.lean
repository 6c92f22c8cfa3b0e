import Feel.Operation.Arguments
import Feel.Decimal.Grouped
import Feel.Decimal.Whole
import Feel.Text.Blank
import Feel.Value.Decode

/-!
# Functions on numbers

Results are rounded to the working precision. The aggregates take one list or separate arguments.
-/

namespace Feel.Operation

/-- A number rounded to the working precision. -/
def working (n : Decimal) : Except Fault Decimal :=
  match n.toWorking? with
  | some rounded => .ok rounded
  | none => .error .overflow

/-- The number that a source text has as its plain numeral. -/
def numberOf (source : String) (numeral : Option (List Char)) : Except Fault Value :=
  match numeral.bind Decimal.parse? with
  | some n => .ok (.ofDecimal n)
  | none => .error (.malformed .number source)

def isBlankText (s : String) : Bool := (Text.trim s.toList).isEmpty

/-- The number that a text denotes, perhaps with separators given for groups and decimals. -/
def number : Operation
  | [source] => do
    if source.isNull then return .null
    let text ← source.toText
    if isBlankText text then return .null
    numberOf text text.toList
  | [source, grouping, point] => do
    if source.isNull then return .null
    let text ← source.toText
    if isBlankText text || grouping.isNull || point.isNull then return .null
    let grouping ← grouping.toText
    let point ← point.toText
    if point.isEmpty then throw (.badArgument .emptySeparator)
    numberOf text (Decimal.ungroup? grouping.toList point.toList text.toList)
  | args => (Arity.oneOf [1, 3]).miscount args

/-- Places beyond which rounding to a scale is rounding to zero, or no rounding. -/
def widestScale : Int := Decimal.maxExponent + 1

/-- A number rounded to a number of decimals. -/
def decimal : Operation
  | [n, scale] => do
    if anyNull [n, scale] then return .null
    let n ← n.toNumber
    let scale ← (← scale.toNumber).word
    let scale := max (-widestScale) (min scale (2 * widestScale))
    return .ofDecimal (← working (n.roundAt scale))
  | args => (Arity.exactly 2).miscount args

/-- An operation on one number, of which null makes null. -/
def onNumber (f : Decimal → Except Fault Value) : Operation
  | [v] => do
    if v.isNull then return .null
    f (← v.toNumber)
  | args => (Arity.exactly 1).miscount args

def floor : Operation := onNumber fun n => .ok (.ofDecimal n.floor)

def ceiling : Operation := onNumber fun n => .ok (.ofDecimal n.ceiling)

def abs : Operation := onNumber fun n => .ok (.ofDecimal n.abs)

/-- The remainder that has the sign of the divisor. -/
def modulo : Operation
  | [a, b] => do
    if anyNull [a, b] then return .null
    let a ← a.toNumber
    let b ← b.toNumber
    if b.isZero then throw .divisionByZero
    let r := a.rem b
    let r := if r.digits ≠ 0 ∧ (r.digits < 0) ≠ (b.digits < 0) then r.add b else r
    return .ofDecimal (← working r)
  | args => (Arity.exactly 2).miscount args

/-- Whether a whole number is odd, or even. -/
def parity (wantOdd : Bool) : Operation := onNumber fun n =>
  if 0 < n.normalize.scale then .error (.fractional n)
  else .ok (.boolean (!(n.rem (.ofInt 2)).isZero == wantOdd))

/-! ### Aggregates -/

/-- An operation on the items given, of which there is at least one; without any the result is null. -/
def onItems (f : Value → List Value → Except Fault Value) : Operation := fun args =>
  match spread? args with
  | some (first :: rest) => f first rest
  | _ => .ok .null

/-- The first of the items that is extreme in the given direction. -/
def extreme (wanted : Ordering) : Operation := onItems fun first rest => do
  let _ ← first.compare first
  rest.foldlM (fun best item => do
    return if (← item.compare best) = wanted then item else best) first

/-- Combines numbers one after the other, each time within the working precision. -/
def accumulate (f : Decimal → Decimal → Decimal) (start : Decimal) (items : List Value) :
    Except Fault Decimal :=
  items.foldlM (fun sum item => do working (f sum (← item.toNumber))) start

def total (items : List Value) : Except Fault Decimal := accumulate Decimal.add .zero items

def sum : Operation := onItems fun first rest => do return .ofDecimal (← total (first :: rest))

def mean : Operation := onItems fun first rest => do
  let sum ← total (first :: rest)
  return .ofDecimal (← working (sum.div (.ofInt (rest.length + 1 : Nat))))

def product : Operation := onItems fun first rest => do
  return .ofDecimal (← accumulate Decimal.mul (.ofInt 1) (first :: rest))

end Feel.Operation
