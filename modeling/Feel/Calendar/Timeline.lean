import Feel.Calendar.LocalDateTime

/-!
# Timelines

The offset of a place changes at certain instants. A timeline holds the offset before the first change
and the changes in order, each as an instant in seconds since the start of 1970 and the offset from
then on. Periods between changes include their start and exclude their end. No change comes so early
that clocks before it show days before the calendar's first.
-/

namespace Feel

namespace Timeline

/-- The end of the calendar's first two days, in seconds since the start of 1970. -/
def dawn : Int := Date.dayNumberOf Date.minYear 1 3 * secondsPerDay

/-- The changes are in order, and all of them after the given instant. -/
def Follow (start : Int) : List (Int × Offset) → Prop
  | [] => True
  | (next, _) :: later => start < next ∧ Follow next later

instance decidableFollow : (start : Int) → (changes : List (Int × Offset)) →
    Decidable (Follow start changes)
  | _, [] => isTrue trivial
  | start, (next, _) :: later =>
    have := decidableFollow next later
    inferInstanceAs (Decidable (start < next ∧ Follow next later))

end Timeline

structure Timeline where
  /-- The offset before the first change. -/
  initial : Offset
  changes : List (Int × Offset)
  follow : Timeline.Follow Timeline.dawn changes
  deriving DecidableEq

namespace Timeline

def offsetFrom (current : Offset) (instant : Int) : List (Int × Offset) → Offset
  | [] => current
  | (start, next) :: later => if instant < start then current else offsetFrom next instant later

def offsetAt (t : Timeline) (instant : Int) : Offset := offsetFrom t.initial instant t.changes

/-- The offset of the earliest period, from the given one on, in which clocks show a local time. -/
def showingFrom? (start : Option Int) (current : Offset) (shown : Int) :
    List (Int × Offset) → Option Offset
  | [] => if start.all (· ≤ shown - current.seconds) then some current else none
  | (stop, next) :: later =>
    let instant := shown - current.seconds
    if start.all (· ≤ instant) ∧ instant < stop then some current
    else showingFrom? (some stop) next shown later

/-- The offset at the first instant at which clocks show a local time, given in seconds since the
start of 1970; there is none if a change skips it. -/
def showing? (t : Timeline) (shown : Int) : Option Offset :=
  showingFrom? none t.initial shown t.changes

/-! ### Changes that recur every year -/

inductive Sunday where
  | first
  | second
  | last
  deriving Repr, DecidableEq

/-- The day number of a Sunday; the fourth of January 1970 was one. -/
def Sunday.dayNumber (s : Sunday) (year : Int) (month : Nat) : Int :=
  let onOrAfter (n : Int) := n + (3 - n) % 7
  match s with
  | .first => onOrAfter (Date.dayNumberOf year month 1)
  | .second => onOrAfter (Date.dayNumberOf year month 8)
  | .last => onOrAfter (Date.dayNumberOf year month (monthLength year month) - 6)

/-- A change on a Sunday of a month, so many seconds after its start in universal time. -/
structure Yearly where
  month : Nat
  sunday : Sunday
  seconds : Int
  offset : Offset

def Yearly.inYear (y : Yearly) (year : Int) : Int × Offset :=
  (y.sunday.dayNumber year y.month * secondsPerDay + y.seconds, y.offset)

/-- The last year for which recurring changes are listed. -/
def horizon : Nat := 2099

/-- The changes that recur from a year on, in order. -/
def recurring (firstYear : Nat) (rules : List Yearly) : List (Int × Offset) :=
  (List.range' firstYear (horizon + 1 - firstYear)).flatMap fun year =>
    rules.map fun rule => rule.inYear year

end Timeline

end Feel
