/-!
# Kinds of values

The name of a value's kind, and what a function may ask an argument to be. Durations are of two kinds;
most functions accept either.
-/

namespace Feel

inductive Kind where
  | null
  | number
  | boolean
  | string
  | date
  | time
  | dateTime
  | monthsDuration
  | timeDuration
  | list
  | context
  | function
  deriving Repr, DecidableEq

def Kind.name : Kind → String
  | .null => "null"
  | .number => "number"
  | .boolean => "boolean"
  | .string => "string"
  | .date => "date"
  | .time => "time"
  | .dateTime => "date and time"
  | .monthsDuration => "years and months duration"
  | .timeDuration => "days and time duration"
  | .list => "list"
  | .context => "context"
  | .function => "function"

/-- What an argument should be. -/
inductive Wanted where
  | kind (k : Kind)
  | duration
  /-- A duration or its literal. -/
  | durationSource
  /-- A date, its literal, or something with a date. -/
  | dateSource
  /-- A time, its literal, or something with a time. -/
  | timeSource
  /-- Something with a date. -/
  | dated
  /-- Something with a time of day. -/
  | timed
  deriving Repr, DecidableEq

def Wanted.name : Wanted → String
  | .kind k => k.name
  | .duration => "duration"
  | .durationSource => "string or duration"
  | .dateSource => "string, date or date and time"
  | .timeSource => "string, time or date and time"
  | .dated => "date or date and time"
  | .timed => "time or date and time"

/-- The kinds that have literals which can be malformed. -/
inductive LiteralKind where
  | number
  | date
  | time
  | dateTime
  | duration
  deriving Repr, DecidableEq

def LiteralKind.name : LiteralKind → String
  | .number => "number"
  | .date => "date"
  | .time => "time"
  | .dateTime => "date and time"
  | .duration => "duration"

end Feel
