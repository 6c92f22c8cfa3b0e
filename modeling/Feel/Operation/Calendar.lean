import Feel.Operation.Arguments
import Feel.Calendar.Duration.Literal
import Feel.Text.Blank

/-!
# Functions on dates, times and durations

Dates and times come from literals, from their fields, or as the part of a date-time that the local
calendar and clock show.
-/

namespace Feel.Operation

/-- An operation on one value, of which null makes null. -/
def onKnown (f : Value → Except Fault Value) : Operation
  | [.null] => .ok .null
  | [v] => f v
  | args => (Arity.exactly 1).miscount args

/-! ### Dates and date-times -/

/-- The day with the fields that three numbers give. -/
def dateOfFields (year month day : Value) : Except Fault Value := do
  let year ← (← year.toNumber).halfWord
  let month ← (← month.toNumber).count
  let day ← (← day.toNumber).count
  match Date.ofFields? year month day with
  | some date => return .date date
  | none => throw (.badArgument (.notADate year month day))

def date : Operation
  | [.null] => .ok .null
  | [.string literal] => (Date.parse literal).map .date
  | [.date d] => .ok (.date d)
  | [.dateTime t] => (t.date.map .date).mapError .panic
  | [v] => v.fault .dateSource
  | [year, month, day] =>
    if anyNull [year, month, day] then .ok .null else dateOfFields year month day
  | args => if anyNull args then .ok .null else (Arity.oneOf [1, 3]).miscount args

def localDate : Value → Except Fault Date
  | .date d => .ok d
  | .dateTime t => t.date.mapError .panic
  | v => v.fault .dated

def dateTimeAtUtc (shown : LocalDateTime) : Except Fault Value :=
  ((DateTime.atUtc shown).map .dateTime).mapError .badArgument

/-- A day with a time, which is first moved to universal time without changing the day. -/
def combine (day time : Value) : Except Fault Value :=
  match day, time with
  | .date d, .time t => dateTimeAtUtc ⟨d, t.toUtc⟩
  | .dateTime d, .time t => do dateTimeAtUtc ⟨← d.date.mapError .panic, t.toUtc⟩
  | v, .time _ => v.fault (.kind .date)
  | _, v => v.fault (.kind .time)

def dateAndTime [Zones] : Operation
  | [.null] => .ok .null
  | [.string literal] => (DateTime.parse literal).map .dateTime
  | [.dateTime t] => .ok (.dateTime t)
  | [.date d] => dateTimeAtUtc (.startOf d)
  | [v] => v.fault .dateSource
  | [day, time] => if anyNull [day, time] then .ok .null else combine day time
  | args => if anyNull args then .ok .null else (Arity.oneOf [1, 2]).miscount args

def dateField (field : Date → Int) : Operation := onKnown fun v => do
  return .ofInt (field (← localDate v))

def year : Operation := dateField fun d => d.year

def month : Operation := dateField fun d => d.month

def day : Operation := dateField fun d => d.day

/-- The local date-time of a value; a date counts from its midnight. -/
def localDateTime : Value → Except Fault LocalDateTime
  | .date d => .ok (.startOf d)
  | .dateTime t => t.shown.mapError .panic
  | v => v.fault .dated

/-- The whole months from one day to another. -/
def yearsAndMonthsDuration : Operation
  | [a, b] => do
    if anyNull [a, b] then return .null
    let a ← localDateTime a
    let b ← localDateTime b
    return .duration (.months (a.monthsUntil b))
  | args => (Arity.exactly 2).miscount args

/-! ### Times -/

/-- The time of day with the fields that three numbers give. -/
def clockOfFields (hour minute second : Value) : Except Fault Clock := do
  let hour ← (← hour.toNumber).count
  let minute ← (← minute.toNumber).count
  let (second, nano) ← (← second.toNumber).splitSeconds
  match Clock.ofFields? hour minute second nano with
  | some clock => return clock
  | none => throw (.badArgument (.notAClock hour minute second))

/-- The offset that a duration of whole minutes gives. -/
def offsetOfDuration : Duration → Except Fault Offset
  | .months _ => .error (.wrongKind (.kind .timeDuration) .monthsDuration)
  | .nanos n =>
    if n % (60 * nanosPerSecond) ≠ 0 then .error (.badArgument (.partialMinutes (.nanos n)))
    else if Offset.maxHour * 3600 < (n / nanosPerSecond).natAbs then
      .error (.badArgument (.offsetTooFar (.nanos n)))
    else
      match Offset.ofSeconds? (n / nanosPerSecond) with
      | some offset => .ok offset
      | none => .error (.badArgument (.offsetTooFar (.nanos n)))

def time : Operation
  | [.null] => .ok .null
  | [.string literal] => (OffsetTime.parse literal).map .time
  | [.time t] => .ok (.time t)
  | [.dateTime t] => (t.time.map .time).mapError .panic
  | [v] => v.fault .timeSource
  | [hour, minute, second] => do
    if anyNull [hour, minute, second] then return .null
    return .time ⟨← clockOfFields hour minute second, .utc⟩
  | [hour, minute, second, offset] => do
    if anyNull [hour, minute, second, offset] then return .null
    let offset ← offsetOfDuration (← offset.toDuration)
    return .time ⟨← clockOfFields hour minute second, offset⟩
  | args => if anyNull args then .ok .null else (Arity.oneOf [1, 3, 4]).miscount args

/-- The local time of a time or a date-time. -/
def localTime : Value → Except Fault OffsetTime
  | .time t => .ok t
  | .dateTime t => t.time.mapError .panic
  | v => v.fault .timed

def timeField (field : Clock → Nat) : Operation := onKnown fun v => do
  return .ofInt (field (← localTime v).clock)

def hour : Operation := timeField Clock.hour

def minute : Operation := timeField Clock.minute

def second : Operation := timeField Clock.second

/-- The offset of a time in whole minutes. -/
def timezone : Operation := onKnown fun v => do
  return .duration (.ofMinutes ((← localTime v).offset.seconds.tdiv 60))

/-! ### Durations -/

def duration : Operation := onKnown fun
  | .duration d => .ok (.duration d)
  | .string literal =>
    let trimmed := Text.trim literal.toList
    if trimmed.isEmpty then .ok .null
    else (Duration.parse (String.ofList trimmed)).map .duration
  | v => v.fault .durationSource

/-- A component of a duration; null if durations of its kind have none. -/
def component (part : Duration → Option Value) : Operation := onKnown fun v => do
  return (part (← v.toDuration)).getD .null

def years : Operation := component fun d => d.yearPart?.map .ofInt

def months : Operation := component fun d => d.monthPart?.map .ofInt

def days : Operation := component fun d => d.dayPart?.map .ofInt

def hours : Operation := component fun d => d.hourPart?.map .ofInt

def minutes : Operation := component fun d => d.minutePart?.map .ofInt

def seconds : Operation := component fun d => d.secondPart?.map .ofDecimal

end Feel.Operation
