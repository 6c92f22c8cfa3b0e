import Feel.Operation.Arguments

/-!
# Functions on contexts

An unknown context equals only another unknown one.
-/

namespace Feel.Operation

/-- Whether two contexts bind the same names to equal values. -/
def equalContexts : Value → Value → Except Fault Bool
  | .null, .null => .ok true
  | .null, v => do let _ ← v.toEntries; return false
  | v, .null => do let _ ← v.toEntries; return false
  | a, b => do
    let _ ← a.toEntries
    let _ ← b.toEntries
    return a == b

def contextEqual : Operation
  | [a, b] => do return .boolean (← equalContexts a b)
  | args => (Arity.exactly 2).miscount args

def contextNotEqual : Operation
  | [a, b] => do return .boolean (!(← equalContexts a b))
  | args => (Arity.exactly 2).miscount args

/-- What a name is bound to; null if it is not. -/
def getValue : Operation
  | [v, key] => do
    if anyNull [v, key] then return .null
    let entries ← v.toEntries
    return (Entries.get? (← key.toText) entries).getD .null
  | args => (Arity.exactly 2).miscount args

/-- A context for each binding, with its name and its value. -/
def getEntries : Operation
  | [.null] => .ok .null
  | [v] => do
    let entries ← v.toEntries
    return .list (entries.map fun (key, value) =>
      .context [("key", .string key), ("value", value)])
  | args => (Arity.exactly 1).miscount args

end Feel.Operation
