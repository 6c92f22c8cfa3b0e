import Feel.Calendar.Offset

/-!
# Local date-times

A day and a time of day, as a calendar and a clock on the wall show them. Their position is a count of
nanoseconds since the start of 1970 on the same clock.
-/

namespace Feel

structure LocalDateTime where
  date : Date
  clock : Clock
  deriving DecidableEq

namespace LocalDateTime

def startOf (date : Date) : LocalDateTime := ⟨date, .midnight⟩

/-- Nanoseconds since the start of 1970. -/
def position (t : LocalDateTime) : Int := t.date.dayNumber * nanosPerDay + t.clock.nanos

/-- Whole seconds since the start of 1970. -/
def seconds (t : LocalDateTime) : Int := t.date.dayNumber * secondsPerDay + t.clock.seconds

/-- The date-time at a position, if the calendar reaches it. -/
def atPosition? (position : Int) : Option LocalDateTime :=
  (Date.ofDayNumber? (position.fdiv nanosPerDay)).map fun date => ⟨date, Clock.wrap position⟩

/-- Months since the start of year zero. -/
def monthIndex (t : LocalDateTime) : Int := t.date.monthIndex

/-- Orders date-times by the day of the month and the time of day alone. -/
def cmpWithinMonth (a b : LocalDateTime) : Ordering :=
  (compare a.date.day b.date.day).then (compare a.clock.nanos b.clock.nanos)

/-- How many whole months lead from one date-time to another; negative toward the past. -/
def monthsUntil (a b : LocalDateTime) : Int :=
  let months := b.monthIndex - a.monthIndex
  if 0 < months ∧ b.cmpWithinMonth a = .lt then months - 1
  else if months < 0 ∧ b.cmpWithinMonth a = .gt then months + 1
  else months

/-- The date and the time with the given character between them. -/
def textWith (separator : Char) (t : LocalDateTime) : List Char :=
  t.date.text ++ separator :: t.clock.text

end LocalDateTime

end Feel
