import Feel.Value

/-!
# Sequences of values

Positions count from one, negative ones from the end. `sortBy` is a stable merge sort, `distinct` keeps
the first of equal values, `leaves` are the values of nested lists from left to right.
-/

namespace Feel.Sequence

/-- The index that a position stands for in a sequence of the given length. -/
def index? (position : Int) (length : Nat) : Option Nat :=
  if 1 ≤ position ∧ position ≤ length then some (position - 1).toNat
  else if -length ≤ position ∧ position ≤ -1 then some (length + position).toNat
  else none

/-- Sorts by merging sorted halves. An item of the later half goes first only if it comes before. -/
def sortBy {α : Type} (before : α → α → Bool) (items : List α) : List α :=
  if items.length ≤ 1 then items
  else
    List.merge (sortBy before (items.take (items.length / 2)))
      (sortBy before (items.drop (items.length / 2))) fun left right => !before right left
termination_by items.length
decreasing_by all_goals simp_all; omega

/-- Sorts values by a function of two values. Of its answers only true says that the first of them
comes before the second. -/
def sortWith (precedes : Value → Value → Value) (items : List Value) : List Value :=
  sortBy (fun a b => precedes a b == .boolean true) items

/-- The values that equal none before them, and none that was seen. -/
def distinctAfter (seen : List Value) : List Value → List Value
  | [] => []
  | v :: vs => if seen.contains v then distinctAfter seen vs else v :: distinctAfter (v :: seen) vs

def distinct (items : List Value) : List Value := distinctAfter [] items

mutual

/-- The values that a value holds at any depth of nested lists. -/
def leaves : Value → List Value
  | .list items => leavesOf items
  | v => [v]

def leavesOf : List Value → List Value
  | [] => []
  | v :: vs => leaves v ++ leavesOf vs

end

/-- Nested lists replaced by their items, one level deep. -/
def unnest (items : List Value) : List Value :=
  items.flatMap fun
    | .list nested => nested
    | v => [v]

/-- The positions of the items equal to a value. -/
def positionsOf (wanted : Value) (items : List Value) : List Nat :=
  go 1 items
where
  go (position : Nat) : List Value → List Nat
    | [] => []
    | v :: vs => if v == wanted then position :: go (position + 1) vs else go (position + 1) vs

/-- The whole numbers from the first to the last. -/
def interval (first last : Int) : List Int :=
  (List.range (last - first + 1).toNat).map fun (i : Nat) => first + i

end Feel.Sequence
