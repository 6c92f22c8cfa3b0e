import Feel.Digits

/-!
# Argument counts

How many arguments a function accepts.
-/

namespace Feel

inductive Arity where
  | exactly (count : Nat)
  | oneOf (counts : List Nat)
  | atLeast (count : Nat)
  deriving Repr, DecidableEq

namespace Arity

def accepts : Arity → Nat → Bool
  | exactly count, n => n == count
  | oneOf counts, n => counts.contains n
  | atLeast count, n => count ≤ n

def countText (n : Nat) : String := String.ofList (Digits.ofNat n)

def text : Arity → String
  | exactly count => countText count
  | oneOf counts => " or ".intercalate (counts.map countText)
  | atLeast count => "at least " ++ countText count

end Arity

end Feel
