import Feel.Calendar.Clock
import Feel.Decimal.Text

/-!
# Durations

A duration is a number of months or a number of nanoseconds. The two kinds never mix: a month has no
fixed length. Components are cut toward zero, so that all of them have the sign of the duration.
-/

namespace Feel

inductive Duration where
  /-- A years-and-months duration. -/
  | months (count : Int)
  /-- A days-and-time duration. -/
  | nanos (count : Int)
  deriving Repr, DecidableEq

namespace Duration

/-- The largest number of months that a duration may have. -/
def maxMonths : Nat := Word.max64

/-- The largest number of nanoseconds that a duration may have: as many milliseconds as months. -/
def maxNanos : Nat := Word.max64 * 1000000

/-- Within the bounds that every duration keeps. -/
def InRange : Duration → Prop
  | months n => n.natAbs ≤ maxMonths
  | nanos n => n.natAbs ≤ maxNanos

instance (d : Duration) : Decidable d.InRange := by
  cases d <;> exact inferInstanceAs (Decidable (_ ≤ _))

def negate : Duration → Duration
  | months n => months (-n)
  | nanos n => nanos (-n)

def ofMinutes (n : Int) : Duration := nanos (n * 60 * nanosPerSecond)

def cmp? : Duration → Duration → Option Ordering
  | months a, months b => some (compare a b)
  | nanos a, nanos b => some (compare a b)
  | _, _ => none

/-! ### Components -/

def yearPart? : Duration → Option Int
  | months n => some (n.tdiv 12)
  | nanos _ => none

def monthPart? : Duration → Option Int
  | months n => some (n.tmod 12)
  | nanos _ => none

/-- Whole seconds of a days-and-time duration. -/
def wholeSeconds? : Duration → Option Int
  | months _ => none
  | nanos n => some (n.tdiv nanosPerSecond)

def dayPart? (d : Duration) : Option Int := d.wholeSeconds?.map fun s => s.tdiv secondsPerDay

def hourPart? (d : Duration) : Option Int := d.wholeSeconds?.map fun s => (s.tdiv 3600).tmod 24

def minutePart? (d : Duration) : Option Int := d.wholeSeconds?.map fun s => (s.tdiv 60).tmod 60

/-- Seconds beyond whole minutes, with their fraction. -/
def secondPart? : Duration → Option Decimal
  | months _ => none
  | nanos n => some (Decimal.normalize ⟨n.tmod (60 * nanosPerSecond), 9⟩)

/-! ### Text -/

/-- A count and its unit, unless the count is zero. -/
def part (count : Nat) (unit : Char) : List Char :=
  if count = 0 then [] else Digits.ofNat count ++ [unit]

def monthsText (n : Nat) : List Char :=
  if n = 0 then ['0', 'M'] else part (n / 12) 'Y' ++ part (n % 12) 'M'

/-- Seconds with as many decimals as they need, unless there are none. -/
def secondsText (nanos : Nat) : List Char :=
  if nanos = 0 then [] else (Decimal.plain ⟨nanos, 9⟩).toList ++ ['S']

def nanosText (n : Nat) : List Char :=
  let seconds := n / nanosPerSecond
  let time := part (seconds / 3600 % 24) 'H' ++ part (seconds / 60 % 60) 'M' ++
    secondsText (n % (60 * nanosPerSecond))
  if n = 0 then ['T', '0', 'S']
  else part (seconds / secondsPerDay) 'D' ++ (if time.isEmpty then [] else 'T' :: time)

def text : Duration → List Char
  | months n => (if n < 0 then ['-', 'P'] else ['P']) ++ monthsText n.natAbs
  | nanos n => (if n < 0 then ['-', 'P'] else ['P']) ++ nanosText n.natAbs

end Duration

end Feel
