import Feel.Decimal
import Feel.Text.Split
import Feel.Word

/-!
# Decimals as text

`ofNumeral?` reads a numeral exactly, `parse?` also rounds it to the working precision. `plain` writes
positional notation; `held` writes the digits as they are held and turns to an exponent where many
zeros would follow them or stand before them.
-/

namespace Feel.Decimal

/-- A text without a plus sign at its front. -/
def dropPlus : List Char → List Char
  | '+' :: rest => rest
  | cs => cs

/-- Whether a minus sign comes first, and the text after it. -/
def splitMinus : List Char → Bool × List Char
  | '-' :: rest => (true, rest)
  | cs => (false, cs)

/-- The exponent of a numeral: one optional `+`, then one optional `-`, then digits below `2 ^ 32`. -/
def readExponent? (cs : List Char) : Option Int :=
  let (negative, ds) := splitMinus (dropPlus cs)
  if Digits.isNumber ds && Digits.toNat ds < Word.count32 then
    some (if negative then -(Digits.toNat ds : Int) else Digits.toNat ds)
  else none

/-- The number that a sign, whole digits, fractional digits and an exponent denote. -/
def ofParts (negative : Bool) (whole fraction : List Char) (exponent : Int) : Decimal :=
  let magnitude := Digits.toNat (whole ++ fraction)
  ⟨if negative then -(magnitude : Int) else magnitude, fraction.length - exponent⟩

/-- Whether a minus sign comes first, and the text after the sign. -/
def splitSign : List Char → Bool × List Char
  | '-' :: rest => (true, rest)
  | '+' :: rest => (false, rest)
  | cs => (false, cs)

/-- The value of a numeral, with the digits and the scale that it is written with. -/
def ofNumeral? (cs : List Char) : Option Decimal :=
  let (negative, body) := splitSign cs
  let (mantissa, exponent) := Text.splitOnce (fun c => c == 'e' || c == 'E') body
  let (whole, fraction) := Text.splitOnce (· == '.') mantissa
  let fraction := fraction.getD []
  if (whole.isEmpty && fraction.isEmpty) || !whole.all Char.isDigit || !fraction.all Char.isDigit then
    none
  else
    match exponent with
    | none => some (ofParts negative whole fraction 0)
    | some e => (readExponent? e).map (ofParts negative whole fraction)

/-- The value of a numeral, rounded to the working precision. -/
def parse? (cs : List Char) : Option Decimal := (ofNumeral? cs).bind toWorking?

/-- A minus sign for negative numbers. -/
def sign (n : Decimal) : List Char := if n.digits < 0 then ['-'] else []

/-- The magnitude in positional notation. -/
def positional (digits : List Char) (scale : Int) : List Char :=
  if scale ≤ 0 then digits ++ List.replicate (-scale).toNat '0'
  else
    let places := scale.toNat
    let padded := List.replicate (places + 1 - digits.length) '0' ++ digits
    padded.take (padded.length - places) ++ '.' :: padded.drop (padded.length - places)

/-- Positional notation of the digits as held. -/
def plainHeld (n : Decimal) : String :=
  String.ofList (n.sign ++ positional (Digits.ofNat n.digits.natAbs) n.scale)

/-- Positional notation without superfluous zeros. -/
def plain (n : Decimal) : String := n.normalize.plainHeld

/-- An exponent with its sign. -/
def signedExponent (e : Int) : List Char :=
  (if e < 0 then '-' else '+') :: Digits.ofNat e.natAbs

/-- Zeros after the point from which small numbers are written with an exponent. -/
def leadingZeroLimit : Int := 5

/-- Zeros after the digits from which large numbers are written with an exponent. -/
def trailingZeroLimit : Int := 15

/-- The digits as held, with an exponent where positional notation needs too many zeros. -/
def held (n : Decimal) : String :=
  let digits := Digits.ofNat n.digits.natAbs
  if leadingZeroLimit < n.scale - digits.length then
    let mantissa := match digits with
      | first :: second :: rest => first :: '.' :: second :: rest
      | short => short
    String.ofList (n.sign ++ mantissa ++ 'E' :: signedExponent n.exponent)
  else if trailingZeroLimit < -n.scale then
    String.ofList (n.sign ++ digits ++ 'e' :: signedExponent (-n.scale))
  else n.plainHeld

end Feel.Decimal
