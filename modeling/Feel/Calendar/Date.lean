import Feel.Digits
import Feel.Text.Split

/-!
# Calendar dates

Dates of the Gregorian calendar, continued to both sides of its first use, with year zero. Days are
numbered from the first day of 1970. For counting, a year starts in March, so that the day added in
leap years comes last.
-/

namespace Feel

/-- A leap year has a twenty-ninth of February. -/
def isLeapYear (year : Int) : Bool := year % 4 == 0 && (year % 100 != 0 || year % 400 == 0)

def monthLength (year : Int) (month : Nat) : Nat :=
  if month == 2 then if isLeapYear year then 29 else 28
  else if month == 4 || month == 6 || month == 9 || month == 11 then 30
  else 31

theorem monthLength_le (year : Int) (month : Nat) : monthLength year month ≤ 31 := by
  unfold monthLength
  repeat' split
  all_goals omega

namespace Date

def minYear : Int := -262143

def maxYear : Int := 262142

/-- The fields of a day of the calendar. -/
def IsValid (year : Int) (month day : Nat) : Prop :=
  (minYear ≤ year ∧ year ≤ maxYear) ∧ (1 ≤ month ∧ month ≤ 12) ∧
    1 ≤ day ∧ day ≤ monthLength year month

instance (year : Int) (month day : Nat) : Decidable (IsValid year month day) :=
  inferInstanceAs (Decidable (_ ∧ _))

end Date

structure Date where
  year : Int
  month : Nat
  day : Nat
  valid : Date.IsValid year month day
  deriving DecidableEq

namespace Date

/-- The day with the given fields, if the calendar has it. -/
def ofFields? (year : Int) (month day : Nat) : Option Date :=
  if h : IsValid year month day then some ⟨year, month, day, h⟩ else none

def cmp (a b : Date) : Ordering :=
  (compare a.year b.year).then ((compare a.month b.month).then (compare a.day b.day))

/-- Months counted from the start of year zero. -/
def monthIndex (d : Date) : Int := 12 * d.year + (d.month - 1 : Nat)

/-! ### Day numbers -/

/-- The day number of the first of March of year zero. -/
def marchZero : Int := -719468

/-- Days from the first of March of a year's start to the first day of a month. -/
def daysBeforeMonth (month : Nat) : Nat := (153 * ((month + 9) % 12) + 2) / 5

/-- Days from the first of March of year zero to the first of March of another year. -/
def daysBeforeYear (year : Int) : Int := 365 * year + year / 4 - year / 100 + year / 400

def dayNumberOf (year : Int) (month day : Nat) : Int :=
  let year := if month ≤ 2 then year - 1 else year
  marchZero + daysBeforeYear year + daysBeforeMonth month + (day - 1 : Nat)

def dayNumber (d : Date) : Int := dayNumberOf d.year d.month d.day

/-- The year, from March, that holds the given day of a span of four hundred years. -/
def yearOfCycle (day : Nat) : Nat := (day - day / 1460 + day / 36524 - day / 146096) / 365

/-- The month that holds the given day of a year from March. -/
def monthOfDay (day : Nat) : Nat :=
  let index := (5 * day + 2) / 153
  if index < 10 then index + 3 else index - 9

/-- The day with the given number. -/
def ofDayNumber? (n : Int) : Option Date :=
  let cycle := (n - marchZero).fdiv 146097
  let day := ((n - marchZero).fmod 146097).toNat
  let year := yearOfCycle day
  let day := day - (365 * year + year / 4 - year / 100)
  let month := monthOfDay day
  let year := 400 * cycle + year
  ofFields? (if month ≤ 2 then year + 1 else year) month (day - daysBeforeMonth month + 1)

/-! ### Text -/

/-- Four digits, or a sign and at least four digits outside the years 0 to 9999. -/
def yearText (year : Int) : List Char :=
  if 0 ≤ year ∧ year ≤ 9999 then Digits.padded 4 year.natAbs
  else (if year < 0 then '-' else '+') :: Digits.padded 4 year.natAbs

def text (d : Date) : List Char :=
  yearText d.year ++ '-' :: Digits.padded 2 d.month ++ '-' :: Digits.padded 2 d.day

def twoDigits? (cs : List Char) : Option Nat :=
  if cs.length = 2 ∧ Digits.isNumber cs then some (Digits.toNat cs) else none

/-- A year of four digits after an optional minus, or of five to nine after a sign and without a
leading zero. -/
def readYear? (sign : Option Char) (digits : List Char) : Option Int :=
  let short := digits.length = 4 ∧ sign ≠ some '+'
  let long := 5 ≤ digits.length ∧ digits.length ≤ 9 ∧ sign.isSome ∧ digits.head? ≠ some '0'
  if Digits.isNumber digits ∧ (short ∨ long) then
    let year : Int := Digits.toNat digits
    some (if sign = some '-' then -year else year)
  else none

/-- The sign that comes first, if there is one, and the text after it. -/
def cutSign : List Char → Option Char × List Char
  | '-' :: rest => (some '-', rest)
  | '+' :: rest => (some '+', rest)
  | cs => (none, cs)

/-- Reads a year, a month and a day with hyphens between them. -/
def parse? (cs : List Char) : Option Date := do
  let (sign, body) := cutSign cs
  let (year, rest) := Text.splitOnce (· == '-') body
  let (month, day) := Text.splitOnce (· == '-') (← rest)
  ofFields? (← readYear? sign year) (← twoDigits? month) (← twoDigits? (← day))

end Date

end Feel
