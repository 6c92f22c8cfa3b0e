import Feel.Fault

/-!
# Decimals as whole numbers

Positions, lengths and calendar fields are decimals that have to be whole and within the range of a
machine word. Seconds of a time of day may have a fraction, of which nanoseconds are kept.
-/

namespace Feel.Decimal

/-- Decimal exponents from which on a number exceeds every machine word. -/
def wordDigits : Nat := 20

/-- The whole number that a decimal is, if it is within the bounds. -/
def whole (lo hi : Int) (n : Decimal) : Except Fault Int :=
  if n.digits = 0 then .ok 0
  else
    let m := n.normalize
    if 0 < m.scale then .error (.fractional n)
    else if wordDigits ≤ m.exponent then .error (.outOfRange n)
    else
      let k := m.digits * Digits.place (-m.scale).toNat
      if lo ≤ k ∧ k ≤ hi then .ok k else .error (.outOfRange n)

/-- A whole number of 64 bits with a sign. -/
def word (n : Decimal) : Except Fault Int := n.whole (-Word.max64 - 1) Word.max64

/-- A whole number of 32 bits with a sign. -/
def halfWord (n : Decimal) : Except Fault Int := n.whole (-Word.max32 - 1) Word.max32

/-- A whole number of 32 bits without a sign. -/
def count (n : Decimal) : Except Fault Nat := (n.whole 0 (Word.count32 - 1)).map Int.toNat

/-- Whole seconds and the nanoseconds beyond them, cut below a nanosecond. The seconds have to fit
32 bits. -/
def splitSeconds (n : Decimal) : Except Fault (Nat × Nat) :=
  if n.digits = 0 then .ok (0, 0)
  else if n.digits < 0 ∨ (wordDigits : Int) ≤ n.exponent then .error (.outOfRange n)
  else if n.exponent < -9 then .ok (0, 0)
  else
    let nanos := (Decimal.rescale ⟨n.digits, n.scale - 9⟩ 0 .towardZero).digits.toNat
    if nanos < Word.count32 * nanosPerSecond then .ok (nanos / nanosPerSecond, nanos % nanosPerSecond)
    else .error (.outOfRange n)

end Feel.Decimal
