/-!
# Three-valued logic

A truth value may be unknown. A conjunction is false as soon as one part is false, whatever is unknown
beside it; a disjunction is its dual.
-/

namespace Feel

inductive Truth where
  | yes
  | no
  | unknown
  deriving Repr, DecidableEq

namespace Truth

def not : Truth → Truth
  | yes => no
  | no => yes
  | unknown => unknown

def and : Truth → Truth → Truth
  | no, _ => no
  | _, no => no
  | unknown, _ => unknown
  | _, unknown => unknown
  | yes, yes => yes

/-- The conjunction of all; without any it holds. -/
def all (truths : List Truth) : Truth := truths.foldl and yes

/-- The disjunction of all; without any it does not hold. -/
def any (truths : List Truth) : Truth := (all (truths.map not)).not

end Truth

end Feel
