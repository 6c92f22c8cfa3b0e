import Feel.Decimal.Text

/-!
# Grouped numerals

Numerals may have separators between groups of digits, and a decimal separator of their own.
-/

namespace Feel.Decimal

/-- The plain numeral of a grouped one. Group separators are taken out of the whole part only; the
decimal separator may occur once. -/
def ungroup? (grouping point numeral : List Char) : Option (List Char) :=
  match Text.cut? point numeral with
  | none => some (Text.replaceAll grouping [] numeral)
  | some (whole, fraction) =>
    if Text.contains point fraction then none
    else some (Text.replaceAll grouping [] whole ++ '.' :: fraction)

end Feel.Decimal
