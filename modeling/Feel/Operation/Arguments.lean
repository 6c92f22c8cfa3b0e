import Feel.Value

/-!
# Arguments

What functions share in taking their arguments. An unknown argument makes most results unknown, without
a fault.
-/

namespace Feel

abbrev Operation := List Value → Except Fault Value

/-- The fault of a call with a count of arguments that is not accepted. -/
def Arity.miscount (expected : Arity) (args : List Value) : Except Fault Value :=
  .error (.argumentCount expected args.length)

def anyNull (args : List Value) : Bool := args.any Value.isNull

/-- The items that a function of many arguments works on: those of a single list, else the arguments
themselves. A single null is an unknown list. -/
def spread? : List Value → Option (List Value)
  | [.list items] => some items
  | [] => none
  | [.null] => none
  | args => some args

end Feel
