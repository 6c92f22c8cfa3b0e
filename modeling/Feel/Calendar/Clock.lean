import Feel.Calendar.Date

/-!
# Times of day

A time of day is a count of nanoseconds since midnight. Days have 86400 seconds.
-/

namespace Feel

def nanosPerSecond : Nat := 1000000000

def secondsPerDay : Nat := 86400

def nanosPerDay : Nat := secondsPerDay * nanosPerSecond

structure Clock where
  nanos : Nat
  lt : nanos < nanosPerDay
  deriving DecidableEq

namespace Clock

def midnight : Clock := ⟨0, by decide⟩

/-- The time of day with the given count of nanoseconds. -/
def ofNanos? (nanos : Nat) : Option Clock :=
  if h : nanos < nanosPerDay then some ⟨nanos, h⟩ else none

/-- The time of day with the given fields, if each is in its range. -/
def ofFields? (hour minute second nano : Nat) : Option Clock :=
  if hour < 24 ∧ minute < 60 ∧ second < 60 ∧ nano < nanosPerSecond then
    ofNanos? ((hour * 3600 + minute * 60 + second) * nanosPerSecond + nano)
  else none

def seconds (c : Clock) : Nat := c.nanos / nanosPerSecond

def hour (c : Clock) : Nat := c.seconds / 3600

def minute (c : Clock) : Nat := c.seconds / 60 % 60

def second (c : Clock) : Nat := c.seconds % 60

def nano (c : Clock) : Nat := c.nanos % nanosPerSecond

/-- The time of day some nanoseconds later, or earlier, wrapping around midnight. -/
def wrap (nanos : Int) : Clock :=
  ⟨(nanos % nanosPerDay).toNat, by
    have : (0 : Int) < nanosPerDay := by decide
    have := Int.emod_nonneg nanos (by omega : (nanosPerDay : Int) ≠ 0)
    have := Int.emod_lt_of_pos nanos (by assumption : (0 : Int) < nanosPerDay)
    omega⟩

/-! ### Text -/

/-- A fraction of a second with no, three, six or nine digits. -/
def fractionText (nano : Nat) : List Char :=
  if nano = 0 then []
  else if nano % 1000000 = 0 then '.' :: Digits.padded 3 (nano / 1000000)
  else if nano % 1000 = 0 then '.' :: Digits.padded 6 (nano / 1000)
  else '.' :: Digits.padded 9 nano

def text (c : Clock) : List Char :=
  Digits.padded 2 c.hour ++ ':' :: Digits.padded 2 c.minute ++ ':' :: Digits.padded 2 c.second ++
    fractionText c.nano

/-- The nanoseconds that one to nine digits of a fraction stand for. -/
def readFraction? (digits : List Char) : Option Nat :=
  if Digits.isNumber digits ∧ digits.length ≤ 9 then
    some (Digits.toNat digits * Digits.place (9 - digits.length))
  else none

/-- Reads hours and minutes, and perhaps seconds with or without a fraction. -/
def parse? (cs : List Char) : Option Clock := do
  let (whole, fraction) := Text.splitOnce (· == '.') cs
  let (hour, rest) := Text.splitOnce (· == ':') whole
  let (minute, second) := Text.splitOnce (· == ':') (← rest)
  let hour ← Date.twoDigits? hour
  let minute ← Date.twoDigits? minute
  match second, fraction with
  | none, none => ofFields? hour minute 0 0
  | none, some _ => none
  | some second, none => ofFields? hour minute (← Date.twoDigits? second) 0
  | some second, some fraction =>
    ofFields? hour minute (← Date.twoDigits? second) (← readFraction? fraction)

end Clock

end Feel
