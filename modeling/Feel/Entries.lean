/-!
# Ordered bindings

A list of names with what they are bound to, in the order in which the names were first bound. Binding
a name again replaces what it is bound to and keeps its place.
-/

namespace Feel.Entries

variable {α : Type}

/-- Binds a name. -/
def insert (key : String) (value : α) : List (String × α) → List (String × α)
  | [] => [(key, value)]
  | (k, v) :: rest => if k = key then (key, value) :: rest else (k, v) :: insert key value rest

/-- What a name is bound to. -/
def get? (key : String) : List (String × α) → Option α
  | [] => none
  | (k, v) :: rest => if k = key then some v else get? key rest

/-- The bindings that result from binding one name after the other. -/
def ofList (bindings : List (String × α)) : List (String × α) :=
  bindings.foldl (fun entries (key, value) => insert key value entries) []

def keys (entries : List (String × α)) : List String := entries.map Prod.fst

end Feel.Entries
