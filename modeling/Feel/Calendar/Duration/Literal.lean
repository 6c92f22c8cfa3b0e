import Feel.Decimal.Whole

/-!
# Duration literals

A literal is an optional minus, the letter `P`, amounts of years, months and days, and after the
letter `T` amounts of hours, minutes and seconds. Each unit may be left out, but their order is fixed,
at least one has to stand there, and one after `T` if there is one. Only seconds may have a fraction.
-/

namespace Feel.Duration

inductive Measure where
  | years
  | months
  | days
  | hours
  | minutes
  | seconds
  deriving Repr, DecidableEq

namespace Measure

def rank : Measure → Nat
  | years => 1
  | months => 2
  | days => 3
  | hours => 4
  | minutes => 5
  | seconds => 6

/-- The unit that a letter stands for, before or after `T`. -/
def ofLetter? (inTime : Bool) (c : Char) : Option Measure :=
  match inTime, c with
  | false, 'Y' => some years
  | false, 'M' => some months
  | false, 'D' => some days
  | true, 'H' => some hours
  | true, 'M' => some minutes
  | true, 'S' => some seconds
  | _, _ => none

/-- Units that count months. -/
def isCalendar : Measure → Bool
  | years | months => true
  | _ => false

/-- How many months, or seconds, a unit has. -/
def factor : Measure → Nat
  | years => 12
  | months => 1
  | days => secondsPerDay
  | hours => 3600
  | minutes => 60
  | seconds => 1

end Measure

structure Component where
  amount : Decimal
  measure : Measure
  deriving Repr, DecidableEq

/-- Digits, perhaps with a point and more digits. -/
def readAmount? (cs : List Char) : Option Decimal :=
  let (whole, fraction) := Text.splitOnce (· == '.') cs
  if Digits.isNumber whole ∧ fraction.all Digits.isNumber then
    some (Decimal.ofParts false whole (fraction.getD []) 0)
  else none

/-- An amount that may stand before a unit. -/
def Component.ofText? (digits : List Char) (measure : Measure) : Option Component := do
  let amount ← readAmount? digits
  if measure = .seconds ∨ amount.normalize.scale ≤ 0 then some ⟨amount, measure⟩ else none

/-- Reads the components after `P`. The amount read so far is held in reverse, `last` is the rank of
the last unit and zero at first. -/
def readComponents? (inTime : Bool) (last : Nat) (amount : List Char) :
    List Char → Option (List Component)
  | [] => if amount.isEmpty ∧ last ≠ 0 ∧ (inTime → 4 ≤ last) then some [] else none
  | c :: cs =>
    if c.isDigit || c == '.' then readComponents? inTime last (c :: amount) cs
    else if c == 'T' then
      if inTime || !amount.isEmpty then none else readComponents? true last [] cs
    else do
      let measure ← Measure.ofLetter? inTime c
      let component ← Component.ofText? amount.reverse measure
      if measure.rank ≤ last then none
      else return component :: (← readComponents? inTime measure.rank [] cs)

/-- Reads the sign and the components of a literal. -/
def readLiteral? : List Char → Option (Bool × List Component)
  | '-' :: 'P' :: cs => (readComponents? false 0 [] cs).map (true, ·)
  | 'P' :: cs => (readComponents? false 0 [] cs).map (false, ·)
  | _ => none

/-- A component in months or in seconds. An amount of one gives the factor of its unit as it is,
without the places that the amount was written with. -/
def Component.scaled (c : Component) : Decimal :=
  let factor := Decimal.ofInt c.measure.factor
  if c.amount.same (.ofInt 1) then factor else c.amount.mul factor

/-- The sum of the components, in months or in seconds. An amount of zero leaves the sum as it is,
with no more places than it had. -/
def total (components : List Component) : Decimal :=
  components.foldl (fun sum c => if c.amount.isZero then sum else sum.add c.scaled) .zero

/-- A number of seconds, cut below a nanosecond. Whole seconds have to fit a machine word, and the
duration its bounds. -/
def ofSeconds (seconds : Decimal) : Except Fault Duration := do
  let whole := seconds.rescale 0 .towardZero
  let _ ← whole.word
  let count := (seconds.rescale 9 .towardZero).digits
  if count.natAbs ≤ maxNanos then .ok (.nanos count) else .error .overflow

/-- The duration of the components of a literal, which `text` is. -/
def ofComponents (text : String) (components : List Component) : Except Fault Duration :=
  let (calendar, clock) := components.partition fun c => c.measure.isCalendar
  if clock.isEmpty then (total calendar).word.map .months
  else if calendar.isEmpty then ofSeconds (total clock)
  else .error (.mixedDuration text)

def parse (text : String) : Except Fault Duration :=
  match readLiteral? text.toList with
  | none => .error (.malformed .duration text)
  | some (negative, components) =>
    (ofComponents text components).map fun d => if negative then d.negate else d

end Feel.Duration
