import Feel.Digits

/-!
# Decimal numbers

A decimal is a whole number of digits together with a scale: `⟨d, s⟩` stands for the number
`d * 10 ^ (-s)`. One number has many such forms; `normalize` picks the one without trailing zeros.
Every result of the library is rounded to 64 significant digits, half to even, and must keep its
decimal exponent within 6144 in either direction (`toWorking?`).
-/

namespace Feel

/-- The number `digits * 10 ^ (-scale)`. -/
structure Decimal where
  digits : Int
  scale : Int
  deriving Repr, DecidableEq, Inhabited

/-- Which whole number stands for a quotient that is not whole. -/
inductive Rounding where
  | halfEven
  | towardZero
  | floor
  | ceiling
  deriving Repr, DecidableEq

/-- The quotient `n / d` as a whole number, for positive `d`. -/
def Rounding.quotient (mode : Rounding) (n : Int) (d : Nat) : Int :=
  let q := n.fdiv d
  let r := n.fmod d
  match mode with
  | .floor => q
  | .ceiling => if r = 0 then q else q + 1
  | .towardZero => n.tdiv d
  | .halfEven =>
    if 2 * r < d then q
    else if d < 2 * r then q + 1
    else if q % 2 = 0 then q else q + 1

namespace Decimal

/-- Significant digits kept by every result. -/
def workingPrecision : Nat := 64

/-- Largest decimal exponent, in either direction, that a result may have. -/
def maxExponent : Nat := 6144

def ofInt (n : Int) : Decimal := ⟨n, 0⟩

def zero : Decimal := ⟨0, 0⟩

def isZero (n : Decimal) : Bool := n.digits == 0

/-- The digits of the two numbers at their common scale. -/
def align (a b : Decimal) : Int × Int :=
  (a.digits * Digits.place (b.scale - a.scale).toNat, b.digits * Digits.place (a.scale - b.scale).toNat)

/-- Orders decimals by value, whatever their scales. -/
def cmp (a b : Decimal) : Ordering :=
  let (x, y) := a.align b
  compare x y

/-- Equality by value. -/
def same (a b : Decimal) : Bool := a.cmp b == .eq

def lt (a b : Decimal) : Bool := a.cmp b == .lt

def add (a b : Decimal) : Decimal :=
  let (x, y) := a.align b
  ⟨x + y, max a.scale b.scale⟩

def mul (a b : Decimal) : Decimal := ⟨a.digits * b.digits, a.scale + b.scale⟩

def abs (n : Decimal) : Decimal := ⟨n.digits.natAbs, n.scale⟩

/-- The remainder of the division that truncates toward zero. -/
def rem (a b : Decimal) : Decimal :=
  let (x, y) := a.align b
  ⟨x.tmod y, max a.scale b.scale⟩

/-- Drops trailing zeros of non-zero digits, one per step of the scale. -/
def stripZeros (digits scale : Int) : Decimal :=
  if digits ≠ 0 ∧ digits % 10 = 0 then stripZeros (digits / 10) (scale - 1) else ⟨digits, scale⟩
termination_by digits.natAbs
decreasing_by omega

/-- The form of the number without trailing zeros; zero has scale zero. -/
def normalize (n : Decimal) : Decimal :=
  if n.digits = 0 then zero else stripZeros n.digits n.scale

/-- The number at the given scale, rounded if that scale is coarser. -/
def rescale (n : Decimal) (scale : Int) (mode : Rounding) : Decimal :=
  if n.scale ≤ scale then ⟨n.digits * Digits.place (scale - n.scale).toNat, scale⟩
  else ⟨mode.quotient n.digits (Digits.place (n.scale - scale).toNat), scale⟩

/-- How many digits the number is held with. -/
def digitCount (n : Decimal) : Nat := Digits.count n.digits.natAbs

/-- Rounds to at most `precision` significant digits, half to even. -/
def roundSignificant (precision : Nat) (n : Decimal) : Decimal :=
  if n.digitCount ≤ precision then n
  else n.rescale (n.scale - (n.digitCount - precision : Nat)) .halfEven

/-- The exponent of the leading digit. -/
def exponent (n : Decimal) : Int := (n.digitCount : Int) - 1 - n.scale

/-- The number rounded to the working precision and normalized, if its exponent is within range. -/
def toWorking? (n : Decimal) : Option Decimal :=
  if n.digits = 0 then some zero
  else
    let rounded := (n.roundSignificant workingPrecision).normalize
    if rounded.exponent.natAbs ≤ maxExponent then some rounded else none

/-- Rounds at the place `10 ^ (-scale)`, half to even. For tens, hundreds and so on the point is shifted
there, and back after the rounding. -/
def roundAt (n : Decimal) (scale : Int) : Decimal :=
  if 0 ≤ scale then n.rescale scale .halfEven
  else
    let shifted := rescale ⟨n.digits, n.scale - scale⟩ 0 .halfEven
    ⟨shifted.digits, shifted.scale + scale⟩

def floor (n : Decimal) : Decimal := n.rescale 0 .floor

def ceiling (n : Decimal) : Decimal := n.rescale 0 .ceiling

/-! ### Division -/

/-- Multiplies by ten until the first number reaches the second. -/
def shiftUp (num den : Nat) (scale : Int) : Nat × Int :=
  if 0 < num ∧ num < den then shiftUp (num * 10) den (scale + 1) else (num, scale)
termination_by den - num
decreasing_by omega

/-- Appends quotient digits until the division ends or `places` more digits are found. -/
def longDivision (den : Nat) : (places : Nat) → (quotient rest : Nat) → (scale : Int) →
    Nat × Nat × Int
  | 0, quotient, rest, scale => (quotient, rest, scale)
  | places + 1, quotient, rest, scale =>
    if rest = 0 then (quotient, rest, scale)
    else longDivision den places (10 * quotient + 10 * rest / den) (10 * rest % den) (scale + 1)

/-- Significant digits of a quotient that does not end earlier. -/
def quotientPrecision : Nat := 100

/-- The quotient of two magnitudes, a half in its last digit going up. -/
def divMagnitude (num den : Nat) (scale : Int) : Nat × Int :=
  let (num, scale) := shiftUp num den scale
  let whole := num / den
  let (quotient, rest, scale) :=
    longDivision den (quotientPrecision - Digits.count whole) whole (num % den) scale
  (if rest ≠ 0 ∧ 5 ≤ 10 * rest / den then quotient + 1 else quotient, scale)

/-- The quotient with at most a hundred significant digits, a half going away from zero. -/
def div (a b : Decimal) : Decimal :=
  let (magnitude, scale) := divMagnitude a.digits.natAbs b.digits.natAbs (a.scale - b.scale)
  ⟨if (a.digits < 0) = (b.digits < 0) then magnitude else -(magnitude : Int), scale⟩

end Decimal

end Feel
