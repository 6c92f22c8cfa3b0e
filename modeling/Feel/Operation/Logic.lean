import Feel.Operation.Arguments
import Feel.Truth

/-!
# Functions on truth values

Whatever is neither true nor false counts as unknown, which null stands for.
-/

namespace Feel.Operation

def truthOf : Value → Truth
  | .boolean true => .yes
  | .boolean false => .no
  | _ => .unknown

def ofTruth : Truth → Value
  | .yes => .boolean true
  | .no => .boolean false
  | .unknown => .null

def negation : Operation
  | [.null] => .ok .null
  | [v] => do return .boolean (!(← v.toBool))
  | args => (Arity.exactly 1).miscount args

def conjunction : Operation := fun args =>
  match spread? args with
  | some items => .ok (ofTruth (Truth.all (items.map truthOf)))
  | none => .ok .null

def disjunction : Operation := fun args =>
  match spread? args with
  | some items => .ok (ofTruth (Truth.any (items.map truthOf)))
  | none => .ok .null

end Feel.Operation
