import Feel.Calendar.Clock

/-!
# Offsets

How far a local clock is ahead of universal time, in seconds, by less than a day.
-/

namespace Feel

/-- The lead of a local clock over universal time. -/
structure Offset where
  seconds : Int
  bounded : seconds.natAbs < secondsPerDay := by decide
  deriving DecidableEq

namespace Offset

def utc : Offset := { seconds := 0 }

def ofSeconds? (seconds : Int) : Option Offset :=
  if h : seconds.natAbs < secondsPerDay then some ⟨seconds, h⟩ else none

def nanos (o : Offset) : Int := o.seconds * nanosPerSecond

/-- A sign, hours and minutes, and seconds where there are any. -/
def numeral (o : Offset) : List Char :=
  let n := o.seconds.natAbs
  (if o.seconds < 0 then '-' else '+') :: Digits.padded 2 (n / 3600) ++
    ':' :: Digits.padded 2 (n / 60 % 60) ++
    (if n % 60 = 0 then [] else ':' :: Digits.padded 2 (n % 60))

/-- The letter `Z` for universal time, else the numeral. -/
def text (o : Offset) : List Char := if o.seconds = 0 then ['Z'] else o.numeral

/-- The largest hour that a literal may have. -/
def maxHour : Nat := 18

/-- The offset of hours and minutes that are given by digits. -/
def ofDigits? (negative : Bool) (hours minutes : List Char) : Option Offset := do
  let hours ← Date.twoDigits? hours
  let minutes ← Date.twoDigits? minutes
  if hours ≤ maxHour ∧ minutes ≤ 59 then
    let seconds : Int := hours * 3600 + minutes * 60
    ofSeconds? (if negative then -seconds else seconds)
  else none

/-- Reads hours, or hours and minutes with or without a colon, after a sign. -/
def readSigned? (negative : Bool) (cs : List Char) : Option Offset :=
  match Text.splitOnce (· == ':') cs with
  | (hours, some minutes) => ofDigits? negative hours minutes
  | (digits, none) =>
    if digits.length = 2 then ofDigits? negative digits ['0', '0']
    else if digits.length = 4 then ofDigits? negative (digits.take 2) (digits.drop 2)
    else none

def parse? : List Char → Option Offset
  | ['Z'] => some utc
  | ['z'] => some utc
  | '+' :: cs => readSigned? false cs
  | '-' :: cs => readSigned? true cs
  | _ => none

/-- The text before and from the last sign that does not come first. -/
def cutAtSign? (cs : List Char) : Option (List Char × List Char) :=
  let isSign (c : Char) := c == '+' || c == '-'
  let tail := (cs.reverse.takeWhile fun c => !isSign c).reverse
  let front := cs.take (cs.length - tail.length - 1)
  if cs.length = tail.length ∨ front.isEmpty then none else some (front, cs.drop front.length)

/-- Parts a clock text from the offset at its end. -/
def cut (cs : List Char) : List Char × Option (List Char) :=
  match cs.getLast? with
  | some 'Z' => (cs.dropLast, some ['Z'])
  | some 'z' => (cs.dropLast, some ['Z'])
  | _ =>
    match cutAtSign? cs with
    | some (front, offset) => (front, some offset)
    | none => (cs, none)

end Offset

end Feel
