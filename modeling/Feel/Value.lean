import Feel.Calendar.DateTime
import Feel.Entries
import Feel.Text.Quoted

/-!
# Values

What functions take and give. Equality compares numbers by value, times and date-times by the moment
that they name, and contexts whatever the order of their names; a function equals only itself.
`Value.compare` orders values of one ordered kind.
-/

namespace Feel

/-- A function that says whether one value comes before another. Each one that is read from a document
has an identity of its own. -/
structure Comparator where
  identity : Nat
  descending : Bool
  /-- Lists are compared by their element at this index, counted from zero. -/
  index : Option Nat
  deriving Repr, DecidableEq

inductive Value where
  | null
  | number (n : Decimal)
  | boolean (b : Bool)
  | string (s : String)
  | date (d : Date)
  | time (t : OffsetTime)
  | dateTime (t : DateTime)
  | duration (d : Duration)
  | list (items : List Value)
  | context (entries : List (String × Value))
  | function (f : Comparator)

instance : Inhabited Value := ⟨.null⟩

namespace Value

/-- A number, without trailing zeros. -/
def ofDecimal (n : Decimal) : Value := number n.normalize

/-- A whole number, with the digits that it is written with. -/
def ofInt (n : Int) : Value := number (.ofInt n)

def ofChars (cs : List Char) : Value := string (String.ofList cs)

def kind : Value → Kind
  | null => .null
  | number _ => .number
  | boolean _ => .boolean
  | string _ => .string
  | date _ => .date
  | time _ => .time
  | dateTime _ => .dateTime
  | duration (.months _) => .monthsDuration
  | duration (.nanos _) => .timeDuration
  | list _ => .list
  | context _ => .context
  | function _ => .function

def isNull : Value → Bool
  | null => true
  | _ => false

/-- The fault of a value that should be something else. -/
def fault {α : Type} (v : Value) (wanted : Wanted) : Except Fault α :=
  .error (.wrongKind wanted v.kind)

def toNumber : Value → Except Fault Decimal
  | number n => .ok n
  | v => v.fault (.kind .number)

def toBool : Value → Except Fault Bool
  | boolean b => .ok b
  | v => v.fault (.kind .boolean)

def toText : Value → Except Fault String
  | string s => .ok s
  | v => v.fault (.kind .string)

def toItems : Value → Except Fault (List Value)
  | list items => .ok items
  | v => v.fault (.kind .list)

def toEntries : Value → Except Fault (List (String × Value))
  | context entries => .ok entries
  | v => v.fault (.kind .context)

def toComparator : Value → Except Fault Comparator
  | function f => .ok f
  | v => v.fault (.kind .function)

def toDuration : Value → Except Fault Duration
  | duration d => .ok d
  | v => v.fault .duration

/-! ### Equality and order -/

mutual

/-- Equality of values. -/
def same : Value → Value → Bool
  | null, null => true
  | number a, number b => a.same b
  | boolean a, boolean b => a == b
  | string a, string b => a == b
  | date a, date b => a == b
  | time a, time b => a.same b
  | dateTime a, dateTime b => a.same b
  | duration a, duration b => a == b
  | list a, list b => sameItems a b
  | context a, context b => a.length == b.length && sameEntries a b
  | function a, function b => a.identity == b.identity
  | _, _ => false

def sameItems : List Value → List Value → Bool
  | [], [] => true
  | a :: as, b :: bs => same a b && sameItems as bs
  | _, _ => false

/-- Whether every name of the first entries is bound to an equal value in the second. -/
def sameEntries : List (String × Value) → List (String × Value) → Bool
  | [], _ => true
  | (key, a) :: as, bs =>
    (match Entries.get? key bs with
      | some b => same a b
      | none => false) && sameEntries as bs

end

instance : BEq Value := ⟨same⟩

/-- The order of two values of one ordered kind. -/
def compare (a b : Value) : Except Fault Ordering :=
  let mismatch := b.fault (.kind a.kind)
  match a, b with
  | number a, number b => .ok (a.cmp b)
  | string a, string b => .ok (Ord.compare a b)
  | date a, date b => .ok (a.cmp b)
  | time a, time b => .ok (a.cmp b)
  | dateTime a, dateTime b => .ok (a.cmp b)
  | duration a, duration b =>
    match a.cmp? b with
    | some order => .ok order
    | none => mismatch
  | _, _ => mismatch

/-! ### Text -/

mutual

/-- The display form of a value, in which strings are quoted. -/
def display : Value → Except Panic String
  | null => .ok "null"
  | number n => .ok n.plain
  | boolean b => .ok (if b then "true" else "false")
  | string s => .ok (String.ofList (Text.quoted s.toList))
  | date d => .ok (String.ofList d.text)
  | time t => .ok (String.ofList t.text)
  | dateTime t => t.text.map String.ofList
  | duration d => .ok (String.ofList d.text)
  | list items => (displayItems items).map fun texts => "[" ++ ", ".intercalate texts ++ "]"
  | context entries =>
    (displayEntries entries).map fun texts => "\x7b" ++ ", ".intercalate texts ++ "\x7d"
  | function _ => .ok "function"

def displayItems : List Value → Except Panic (List String)
  | [] => .ok []
  | v :: vs => do return (← display v) :: (← displayItems vs)

def displayEntries : List (String × Value) → Except Panic (List String)
  | [] => .ok []
  | (key, v) :: rest => do return (key ++ ": " ++ (← display v)) :: (← displayEntries rest)

end

/-- The text of a value: a string's own text, else the display form. -/
def text : Value → Except Panic String
  | string s => .ok s
  | v => v.display

end Value

namespace Comparator

/-- The part of a value that decides its order. -/
def key? (f : Comparator) (v : Value) : Option Value :=
  match f.index, v with
  | none, v => some v
  | some i, .list items => items[i]?
  | some _, _ => none

/-- Whether the first value comes before the second; null if their order cannot be told. -/
def before (f : Comparator) (a b : Value) : Value :=
  match f.key? a, f.key? b with
  | some a, some b =>
    match a.compare b with
    | .ok order => .boolean (order == if f.descending then .gt else .lt)
    | .error _ => .null
  | _, _ => .null

/-- Applies the function to arguments, of which it needs two. -/
def apply (f : Comparator) : List Value → Value
  | [a, b] => f.before a b
  | _ => .null

end Comparator

end Feel
