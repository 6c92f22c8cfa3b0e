/-!
# Digit strings

Natural numbers written in base ten, most significant digit first, and read back.
-/

namespace Feel.Digits

def digit (n : Nat) : Char := Char.ofNat (48 + n)

/-- The digits of `n` without superfluous leading zeros. -/
def ofNat (n : Nat) : List Char :=
  if n < 10 then [digit n] else ofNat (n / 10) ++ [digit (n % 10)]
termination_by n
decreasing_by omega

/-- The value of a digit string; the empty string counts as zero. -/
def toNat (cs : List Char) : Nat := cs.foldl (fun n c => 10 * n + (c.toNat - 48)) 0

/-- How many digits `n` has; zero has one. -/
def count (n : Nat) : Nat :=
  if n < 10 then 1 else count (n / 10) + 1
termination_by n
decreasing_by omega

/-- What a digit with `k` digits after it counts: `10 ^ k`. -/
def place (k : Nat) : Nat := Nat.pow 10 k

/-- `n` with leading zeros up to `width` digits. -/
def padded (width n : Nat) : List Char :=
  let ds := ofNat n
  List.replicate (width - ds.length) '0' ++ ds

/-- A non-empty string of digits. -/
def isNumber (cs : List Char) : Bool := !cs.isEmpty && cs.all Char.isDigit

/-- A whole number with a minus sign where it is negative. -/
def ofInt (n : Int) : List Char := if n < 0 then '-' :: ofNat n.natAbs else ofNat n.natAbs

end Feel.Digits
