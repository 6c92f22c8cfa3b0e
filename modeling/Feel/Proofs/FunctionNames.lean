import Feel.Library
import Mathlib

/-!
# Names of functions

A function has one name that comes first and may have others. Every name finds its function, and no name
belongs to two.
-/

namespace Feel.Proofs

def IsNameOf (name : String) (f : Builtin) : Prop := name ∈ f.name :: f.aliases

instance (name : String) (f : Builtin) : Decidable (IsNameOf name f) :=
  inferInstanceAs (Decidable (name ∈ f.name :: f.aliases))

lemma isNameOf_name (f : Builtin) : IsNameOf f.name f := List.mem_cons_self

lemma mem_all (f : Builtin) : f ∈ Builtin.all := by cases f <;> decide

/-- The listed functions have no name in common. -/
lemma ofName?_of_mem_all :
    ∀ f ∈ Builtin.all, ∀ name ∈ f.name :: f.aliases, Builtin.ofName? name = some f := by
  decide +kernel

lemma ofName?_eq_some_iff {name : String} {f : Builtin} :
    Builtin.ofName? name = some f ↔ IsNameOf name f := by
  constructor
  · intro h
    have hname := List.find?_some h
    simp only [Bool.or_eq_true, beq_iff_eq, List.contains_iff_mem] at hname
    obtain rfl | hname := hname
    · exact isNameOf_name f
    · exact List.mem_cons_of_mem _ hname
  · exact ofName?_of_mem_all f (mem_all f) name

lemma IsNameOf.unique {name : String} {f g : Builtin} (hf : IsNameOf name f) (hg : IsNameOf name g) :
    f = g :=
  Option.some.inj ((ofName?_eq_some_iff.mpr hf).symm.trans (ofName?_eq_some_iff.mpr hg))

lemma ofName?_eq_none_iff {name : String} :
    Builtin.ofName? name = none ↔ ∀ f, ¬IsNameOf name f := by
  simp only [Option.eq_none_iff_forall_ne_some, ne_eq, ofName?_eq_some_iff]

lemma tryCall_of_unknown [Zones] {name : String} (h : ∀ f, ¬IsNameOf name f) (args : List Value) :
    tryCall name args = .error (.unknownFunction name) := by
  rw [tryCall, ofName?_eq_none_iff.mpr h]

section Counts

variable [Zones] {name : String} {f : Builtin} {args : List Value}

lemma tryCall_of_accepts (h : IsNameOf name f) (hcount : f.arity.accepts args.length = true) :
    tryCall name args = f.run args := by
  rw [tryCall, ofName?_eq_some_iff.mpr h]
  exact if_pos hcount

lemma tryCall_of_not_accepts (h : IsNameOf name f) (hcount : ¬f.arity.accepts args.length = true) :
    tryCall name args = .error (.argumentCount f.arity args.length) := by
  rw [tryCall, ofName?_eq_some_iff.mpr h]
  exact if_neg hcount

end Counts

end Feel.Proofs
