import Feel.Arity
import Feel.Calendar.Duration
import Feel.Calendar.LocalDateTime
import Feel.Calendar.Zone
import Feel.Kind
import Feel.Pattern

/-!
# Faults

Every reason why a call can fail, and its wording. A fault never stops an evaluation: the call then
answers null, and the wording goes into a record. A panic is none of these faults. It stops the whole
program, so that the call gives no answer, and nothing is recorded.
-/

namespace Feel

/-- Why an argument of the right kind is refused. -/
inductive ArgumentFault where
  | notRepresentable (shown : LocalDateTime) (offset : Offset)
  | skipped (shown : LocalDateTime) (zone : Zone)
  | notADate (year : Int) (month day : Nat)
  | notAClock (hour minute second : Nat)
  | partialMinutes (offset : Duration)
  | offsetTooFar (offset : Duration)
  | emptySeparator
  | negativeLength (length : Int)
  | rangeTooLong (first last : Int)
  | comparatorOrder
  | comparatorPosition
  | comparatorKey
  deriving DecidableEq

/-- Why the program stops. -/
inductive Panic where
  /-- A local calendar was to show an instant beyond its first or last day. -/
  | localOutOfRange
  deriving Repr, DecidableEq

/-- Why a call fails, or does not return at all. -/
inductive Fault where
  | unknownFunction (name : String)
  | argumentCount (expected : Arity) (found : Nat)
  | wrongKind (expected : Wanted) (found : Kind)
  | malformed (kind : LiteralKind) (text : String)
  | badArgument (why : ArgumentFault)
  | indexOutOfBounds (index : Int) (length : Nat)
  | divisionByZero
  | overflow
  | fractional (value : Decimal)
  | outOfRange (value : Decimal)
  | badPattern (why : Pattern.Fault)
  | mixedDuration (text : String)
  | panic (why : Panic)
  deriving DecidableEq

def natText (n : Nat) : String := String.ofList (Digits.ofNat n)

def intText (n : Int) : String := String.ofList (Digits.ofInt n)

def ArgumentFault.message : ArgumentFault → String
  | .notRepresentable shown offset =>
    String.ofList (shown.textWith ' ') ++ " is not representable at " ++ String.ofList offset.numeral
  | .skipped shown zone =>
    String.ofList (shown.textWith ' ') ++ " does not exist in " ++ zone.name
  | .notADate year month day =>
    intText year ++ "-" ++ natText month ++ "-" ++ natText day ++ " is not a calendar date"
  | .notAClock hour minute second =>
    let field (n : Nat) := String.ofList (Digits.padded 2 n)
    field hour ++ ":" ++ field minute ++ ":" ++ field second ++ " is not a time of day"
  | .partialMinutes offset =>
    "offset " ++ String.ofList offset.text ++ " is not a whole number of minutes"
  | .offsetTooFar offset =>
    "offset " ++ String.ofList offset.text ++ " exceeds " ++ natText Offset.maxHour ++ " hours"
  | .emptySeparator => "decimal separator must not be empty"
  | .negativeLength length => "negative length " ++ intText length
  | .rangeTooLong first last =>
    "range " ++ intText first ++ ".." ++ intText last ++ " has too many elements"
  | .comparatorOrder => "expected \"<\" or \">\""
  | .comparatorPosition => "\"by\" must be a positive position"
  | .comparatorKey => "unexpected key"

def Panic.message : Panic → String
  | .localOutOfRange => "Local time out of range"

def Fault.message : Fault → String
  | .unknownFunction name => "Unknown function '" ++ name ++ "'."
  | .argumentCount expected found =>
    "Argument count mismatch: expected " ++ expected.text ++ ", found " ++ natText found ++ "."
  | .wrongKind expected found =>
    "Type error: expected " ++ expected.name ++ ", found " ++ found.name ++ "."
  | .malformed kind text => "Invalid " ++ kind.name ++ " literal '" ++ text ++ "'."
  | .badArgument why => "Invalid argument: " ++ why.message ++ "."
  | .indexOutOfBounds index length =>
    "Index '" ++ intText index ++ "' out of bounds [1, " ++ natText length ++ "]."
  | .divisionByZero => "Division by zero."
  | .overflow => "Arithmetic overflow while trying to compute result."
  | .fractional value =>
    "Value " ++ value.held ++ " is fractional and cannot be used as an integer."
  | .outOfRange value => "Value " ++ value.held ++ " is out of range."
  | .badPattern why => "Invalid pattern: " ++ why.message ++ "."
  | .mixedDuration text =>
    "Duration '" ++ text ++ "' mixes year-month and day-time components."
  | .panic why => why.message

end Feel
