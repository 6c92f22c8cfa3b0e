import Feel.Operation.Arithmetic
import Feel.Operation.Calendar
import Feel.Operation.Contexts
import Feel.Operation.Lists
import Feel.Operation.Logic
import Feel.Operation.Texts

/-!
# Built-in functions

Every function with its name, its other names, the counts of arguments that it accepts and what it
does. Names are case-sensitive, and no name stands for two functions.
-/

namespace Feel

/-- A function that is built in. -/
inductive Builtin where
  | number
  | decimal
  | floor
  | ceiling
  | abs
  | modulo
  | odd
  | even
  | min
  | max
  | sum
  | mean
  | product
  | not
  | and
  | or
  | string
  | contains
  | startsWith
  | endsWith
  | stringLength
  | substring
  | upperCase
  | lowerCase
  | substringBefore
  | substringAfter
  | replace
  | matching
  | date
  | dateAndTime
  | year
  | month
  | day
  | yearsAndMonthsDuration
  | time
  | hour
  | minute
  | second
  | timezone
  | timeOffset
  | duration
  | years
  | months
  | days
  | hours
  | minutes
  | seconds
  | listContains
  | append
  | count
  | sublist
  | concatenate
  | insertBefore
  | remove
  | reverse
  | indexOf
  | union
  | distinctValues
  | flatten
  | flattenFirstLevel
  | sort
  | asList
  | asElement
  | rangeToList
  | elementAt
  | contextEqual
  | contextNotEqual
  | getValue
  | getEntries
  deriving Repr, DecidableEq

namespace Builtin

/-- Every function, in the order in which they are listed. -/
def all : List Builtin :=
  [.number, .decimal, .floor, .ceiling, .abs, .modulo, .odd, .even, .min, .max, .sum, .mean,
   .product, .not, .and, .or, .string, .contains, .startsWith, .endsWith, .stringLength,
   .substring, .upperCase, .lowerCase, .substringBefore, .substringAfter, .replace, .matching,
   .date, .dateAndTime, .year, .month, .day, .yearsAndMonthsDuration, .time, .hour, .minute,
   .second, .timezone, .timeOffset, .duration, .years, .months, .days, .hours, .minutes,
   .seconds, .listContains, .append, .count, .sublist, .concatenate, .insertBefore, .remove,
   .reverse, .indexOf, .union, .distinctValues, .flatten, .flattenFirstLevel, .sort, .asList,
   .asElement, .rangeToList, .elementAt, .contextEqual, .contextNotEqual, .getValue,
   .getEntries]

/-- The name that comes first. -/
def name : Builtin → String
  | .number => "number"
  | .decimal => "decimal"
  | .floor => "floor"
  | .ceiling => "ceiling"
  | .abs => "abs"
  | .modulo => "modulo"
  | .odd => "odd"
  | .even => "even"
  | .min => "min"
  | .max => "max"
  | .sum => "sum"
  | .mean => "mean"
  | .product => "product"
  | .not => "not"
  | .and => "and"
  | .or => "or"
  | .string => "string"
  | .contains => "contains"
  | .startsWith => "startsWith"
  | .endsWith => "endsWith"
  | .stringLength => "stringLength"
  | .substring => "substring"
  | .upperCase => "upperCase"
  | .lowerCase => "lowerCase"
  | .substringBefore => "substringBefore"
  | .substringAfter => "substringAfter"
  | .replace => "replace"
  | .matching => "matches"
  | .date => "date"
  | .dateAndTime => "dateAndTime"
  | .year => "year"
  | .month => "month"
  | .day => "day"
  | .yearsAndMonthsDuration => "yearsAndMonthsDuration"
  | .time => "time"
  | .hour => "hour"
  | .minute => "minute"
  | .second => "second"
  | .timezone => "timezone"
  | .timeOffset => "timeOffset"
  | .duration => "duration"
  | .years => "years"
  | .months => "months"
  | .days => "days"
  | .hours => "hours"
  | .minutes => "minutes"
  | .seconds => "seconds"
  | .listContains => "listContains"
  | .append => "append"
  | .count => "count"
  | .sublist => "sublist"
  | .concatenate => "concatenate"
  | .insertBefore => "insertBefore"
  | .remove => "remove"
  | .reverse => "reverse"
  | .indexOf => "indexOf"
  | .union => "union"
  | .distinctValues => "distinctValues"
  | .flatten => "flatten"
  | .flattenFirstLevel => "flattenFirstLevel"
  | .sort => "sort"
  | .asList => "asList"
  | .asElement => "asElement"
  | .rangeToList => "rangeToList"
  | .elementAt => "elementAt"
  | .contextEqual => "contextEqual"
  | .contextNotEqual => "contextNotEqual"
  | .getValue => "getValue"
  | .getEntries => "getEntries"

/-- The other names. -/
def aliases : Builtin → List String
  | .and => ["all"]
  | .or => ["any"]
  | .startsWith => ["starts with"]
  | .endsWith => ["ends with"]
  | .stringLength => ["string length"]
  | .upperCase => ["upper case"]
  | .lowerCase => ["lower case"]
  | .substringBefore => ["substring before"]
  | .substringAfter => ["substring after"]
  | .dateAndTime => ["date and time"]
  | .yearsAndMonthsDuration => ["years and months duration"]
  | .timeOffset => ["time offset"]
  | .listContains => ["list contains"]
  | .insertBefore => ["insert before"]
  | .indexOf => ["index of"]
  | .distinctValues => ["distinct values"]
  | .getValue => ["get value"]
  | .getEntries => ["get entries"]
  | _ => []

/-- The counts of arguments that a function accepts. -/
def arity : Builtin → Arity
  | .number => .oneOf [1, 3]
  | .decimal => .exactly 2
  | .floor => .exactly 1
  | .ceiling => .exactly 1
  | .abs => .exactly 1
  | .modulo => .exactly 2
  | .odd => .exactly 1
  | .even => .exactly 1
  | .min => .atLeast 1
  | .max => .atLeast 1
  | .sum => .atLeast 1
  | .mean => .atLeast 1
  | .product => .atLeast 1
  | .not => .exactly 1
  | .and => .atLeast 1
  | .or => .atLeast 1
  | .string => .exactly 1
  | .contains => .exactly 2
  | .startsWith => .exactly 2
  | .endsWith => .exactly 2
  | .stringLength => .exactly 1
  | .substring => .oneOf [2, 3]
  | .upperCase => .exactly 1
  | .lowerCase => .exactly 1
  | .substringBefore => .exactly 2
  | .substringAfter => .exactly 2
  | .replace => .oneOf [3, 4]
  | .matching => .oneOf [2, 3]
  | .date => .oneOf [1, 3]
  | .dateAndTime => .oneOf [1, 2]
  | .year => .exactly 1
  | .month => .exactly 1
  | .day => .exactly 1
  | .yearsAndMonthsDuration => .exactly 2
  | .time => .oneOf [1, 3, 4]
  | .hour => .exactly 1
  | .minute => .exactly 1
  | .second => .exactly 1
  | .timezone => .exactly 1
  | .timeOffset => .exactly 1
  | .duration => .exactly 1
  | .years => .exactly 1
  | .months => .exactly 1
  | .days => .exactly 1
  | .hours => .exactly 1
  | .minutes => .exactly 1
  | .seconds => .exactly 1
  | .listContains => .exactly 2
  | .append => .atLeast 1
  | .count => .exactly 1
  | .sublist => .oneOf [2, 3]
  | .concatenate => .atLeast 1
  | .insertBefore => .exactly 3
  | .remove => .exactly 2
  | .reverse => .exactly 1
  | .indexOf => .exactly 2
  | .union => .atLeast 1
  | .distinctValues => .exactly 1
  | .flatten => .exactly 1
  | .flattenFirstLevel => .exactly 1
  | .sort => .exactly 2
  | .asList => .atLeast 0
  | .asElement => .exactly 1
  | .rangeToList => .exactly 4
  | .elementAt => .exactly 2
  | .contextEqual => .exactly 2
  | .contextNotEqual => .exactly 2
  | .getValue => .exactly 2
  | .getEntries => .exactly 1

/-- What a function does with its arguments, whose count it checks itself. -/
def run [Zones] : Builtin → Operation
  | .number => Operation.number
  | .decimal => Operation.decimal
  | .floor => Operation.floor
  | .ceiling => Operation.ceiling
  | .abs => Operation.abs
  | .modulo => Operation.modulo
  | .odd => Operation.parity true
  | .even => Operation.parity false
  | .min => Operation.extreme .lt
  | .max => Operation.extreme .gt
  | .sum => Operation.sum
  | .mean => Operation.mean
  | .product => Operation.product
  | .not => Operation.negation
  | .and => Operation.conjunction
  | .or => Operation.disjunction
  | .string => Operation.string
  | .contains => Operation.contains
  | .startsWith => Operation.startsWith
  | .endsWith => Operation.endsWith
  | .stringLength => Operation.stringLength
  | .substring => Operation.substring
  | .upperCase => Operation.upperCase
  | .lowerCase => Operation.lowerCase
  | .substringBefore => Operation.substringBefore
  | .substringAfter => Operation.substringAfter
  | .replace => Operation.replace
  | .matching => Operation.isMatch
  | .date => Operation.date
  | .dateAndTime => Operation.dateAndTime
  | .year => Operation.year
  | .month => Operation.month
  | .day => Operation.day
  | .yearsAndMonthsDuration => Operation.yearsAndMonthsDuration
  | .time => Operation.time
  | .hour => Operation.hour
  | .minute => Operation.minute
  | .second => Operation.second
  | .timezone => Operation.timezone
  | .timeOffset => Operation.timezone
  | .duration => Operation.duration
  | .years => Operation.years
  | .months => Operation.months
  | .days => Operation.days
  | .hours => Operation.hours
  | .minutes => Operation.minutes
  | .seconds => Operation.seconds
  | .listContains => Operation.listContains
  | .append => Operation.append
  | .count => Operation.count
  | .sublist => Operation.sublist
  | .concatenate => Operation.concatenate
  | .insertBefore => Operation.insertBefore
  | .remove => Operation.remove
  | .reverse => Operation.reverse
  | .indexOf => Operation.indexOf
  | .union => Operation.union
  | .distinctValues => Operation.distinctValues
  | .flatten => Operation.flatten
  | .flattenFirstLevel => Operation.flattenFirstLevel
  | .sort => Operation.sort
  | .asList => Operation.asList
  | .asElement => Operation.asElement
  | .rangeToList => Operation.rangeToList
  | .elementAt => Operation.elementAt
  | .contextEqual => Operation.contextEqual
  | .contextNotEqual => Operation.contextNotEqual
  | .getValue => Operation.getValue
  | .getEntries => Operation.getEntries

/-- The function with the given name, or other name. -/
def ofName? (name : String) : Option Builtin :=
  all.find? fun f => f.name == name || f.aliases.contains name

end Builtin

end Feel
