import Feel.Unicode.Addition

/-!
# Letter case

Upper and lower case of a text with the full mappings of Unicode, by which a character may become
several. A capital sigma becomes a final one at the end of a word.
-/

namespace Feel.Text

def upper (cs : List Char) : List Char := cs.flatMap Unicode.toUpper

/-- Whether a letter with case comes first, after characters that case ignores. -/
def letterFollows (cs : List Char) : Bool :=
  match cs.dropWhile Unicode.caseIgnorableChars.contains with
  | [] => false
  | c :: _ => Unicode.casedChars.contains c

/-- The small sigma between the text before it, in reverse, and the text after it. -/
def smallSigma (before after : List Char) : Char :=
  if letterFollows before && !letterFollows after then 'ς' else 'σ'

/-- Lower case of a text that follows another, given in reverse. -/
def lowerAfter (before : List Char) : List Char → List Char
  | [] => []
  | c :: cs =>
    (if c == 'Σ' then [smallSigma before cs] else Unicode.toLower c) ++ lowerAfter (c :: before) cs

def lower (cs : List Char) : List Char := lowerAfter [] cs

end Feel.Text
