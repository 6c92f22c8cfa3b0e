import Feel.Unicode.Addition

/-!
# Quoted text

Text between double quotes. Quotes, backslashes and some controls are written after a backslash; what
cannot be printed on its own is written by its code point.
-/

namespace Feel.Text

/-- Controls, formats, private and unassigned characters and separators, of which only the space is
printed, and fillers that are not shown. -/
def unprintable : CharSet :=
  ((Unicode.category ["Cc", "Cf", "Cs", "Co", "Cn", "Zl", "Zp", "Zs"]).diff
    ((CharSet.singleton ' ').union (Unicode.readRanges Unicode.addedPrintedRows))).union
      Unicode.defaultIgnorable

/-- Marks that attach to the character before them. Letters that extend it stand on their own. -/
def attached : CharSet := Unicode.graphemeExtend.diff (Unicode.category ["Lm"])

/-- What is written by its code point. -/
def escaped : CharSet := unprintable.union attached

/-- Hexadecimal digits without leading zeros. -/
def hexDigits (n : Nat) : List Char := Nat.toDigits 16 n

/-- A character as it stands between double quotes. -/
def quoteChar (c : Char) : List Char :=
  match c with
  | '"' => ['\\', '"']
  | '\\' => ['\\', '\\']
  | '\n' => ['\\', 'n']
  | '\r' => ['\\', 'r']
  | '\t' => ['\\', 't']
  | '\x00' => ['\\', '0']
  | c =>
    if escaped.contains c then
      ['\\', 'u', '\x7b'] ++ hexDigits c.toNat ++ ['\x7d']
    else [c]

def quoted (cs : List Char) : List Char := '"' :: cs.flatMap quoteChar ++ ['"']

end Feel.Text
