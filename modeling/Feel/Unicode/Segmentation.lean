import Feel.Unicode.Property
import Feel.Unicode.Script

/-!
# Break classes

The classes of characters by which a text is cut into graphemes, words and sentences, in version 16
of the character database. A class follows from the general category, from other properties and from
scripts; only what these do not say is listed. The characters without a class form no set here.
-/

namespace Feel.Unicode

/-- The set that a short range table lists. -/
def listed (row : String) : CharSet := readRanges [row]

def emojiModifiers : CharSet := readRanges emojiModifierRows

def prependedMarks : CharSet := readRanges prependedMarkRows

/-! ### Graphemes -/

/-- Characters that extend the grapheme before them, and skin tones. -/
def graphemeExtenders : CharSet := graphemeExtend.union emojiModifiers

/-- Characters that stand alone: separators, controls and format characters, assigned or not. -/
def graphemeControls : CharSet :=
  let unassigned := (category ["Cn"]).inter defaultIgnorable
  let joined := (listed "a d 200d").union (prependedMarks.union graphemeExtenders)
  ((category ["Zl", "Zp", "Cc", "Cf"]).union unassigned).diff joined

/-- Signs written before the letters that they belong to. -/
def graphemePrepends : CharSet :=
  prependedMarks.union
    (listed "d4e 111c2-111c3 113d1 1193f 11941 11a3a 11a84-11a89 11d46 11f02")

/-- Spacing marks that belong to the letter before them. -/
def graphemeSpacingMarks : CharSet :=
  let apart := listed ("102b-102c 1038 1062-1064 1067-106d 1083 1087-108c 108f 109a-109c " ++
    "1a61 1a63-1a64 aa7b aa7d 11720-11721")
  ((category ["Mc"]).union (listed "e33 eb3")).diff (graphemeExtenders.union apart)

/-- Hangul syllables of two parts: every twenty-eighth, as one without a final consonant comes first. -/
def hangulOpenSyllables : CharSet :=
  CharSet.ofRanges ((List.range 399).map fun i => (0xAC00 + 28 * i, 0xAC00 + 28 * i))

/-- Hangul syllables of three parts. -/
def hangulClosedSyllables : CharSet := (listed "ac00-d7a3").diff hangulOpenSyllables

/-- A break class of graphemes by one of its names, in lower case and without separators. -/
def graphemeBreak? (name : String) : Option CharSet :=
  match name with
  | "cr" => some (listed "d")
  | "lf" => some (listed "a")
  | "cn" | "control" => some graphemeControls
  | "ex" | "extend" => some graphemeExtenders
  | "zwj" => some (listed "200d")
  | "ri" | "regionalindicator" => some (readRanges regionalIndicatorRows)
  | "pp" | "prepend" => some graphemePrepends
  | "sm" | "spacingmark" => some graphemeSpacingMarks
  | "l" => some (listed "1100-115f a960-a97c")
  | "v" => some (listed "1160-11a7 d7b0-d7c6 16d63 16d67-16d6a")
  | "t" => some (listed "11a8-11ff d7cb-d7fb")
  | "lv" => some hangulOpenSyllables
  | "lvt" => some hangulClosedSyllables
  | _ => none

/-! ### Words -/

/-- Characters that are passed over after the first character of a word. -/
def wordExtenders : CharSet :=
  (graphemeExtenders.union (category ["Mc"])).diff (listed "200d")

/-- Format characters that are passed over. -/
def wordFormats : CharSet :=
  (category ["Cf"]).diff ((listed "200b 200d").union (prependedMarks.union wordExtenders))

def hebrewLetters : CharSet := (script "Hebr").inter (category ["Lo"])

/-- Katakana and the marks that are written in it. -/
def katakana : CharSet := (script "Kana").union (listed "3031-3035 309b-309c 30a0 30fc ff70")

/-- Characters of the scripts that are written without spaces. -/
def unspacedScripts : CharSet :=
  CharSet.unions
    (["Thai", "Laoo", "Mymr", "Khmr", "Tale", "Talu", "Lana", "Tavt", "Ahom", "Hira"].map script)

/-- Letters of the scripts whose words are set apart, and modifiers that are used like letters. -/
def wordLetters : CharSet :=
  let apart := CharSet.unions
    [readRanges ideographicRows, katakana, unspacedScripts, wordExtenders, hebrewLetters]
  let more := listed ("2c2-2c5 2d2-2d7 2de-2df 2e5-2eb 2ed 2ef-2ff 55a-55c 55e 58a 5f3 70f " ++
    "a708-a716 a720-a721 a789-a78a ab5b")
  (alphabetic.diff apart).union more

/-- Digits and the signs in front of numbers, but not the sign of an abbreviation. -/
def numberChars : CharSet :=
  ((category ["Nd"]).union (prependedMarks.union (listed "66b 19da"))).diff (listed "70f")

/-- A break class of words by one of its names, in lower case and without separators. -/
def wordBreak? (name : String) : Option CharSet :=
  match name with
  | "cr" => some (listed "d")
  | "lf" => some (listed "a")
  | "nl" | "newline" => some (listed "b-c 85 2028-2029")
  | "dq" | "doublequote" => some (listed "22")
  | "sq" | "singlequote" => some (listed "27")
  | "hl" | "hebrewletter" => some hebrewLetters
  | "extend" => some wordExtenders
  | "zwj" => some (listed "200d")
  | "ri" | "regionalindicator" => some (readRanges regionalIndicatorRows)
  | "fo" | "format" => some wordFormats
  | "ka" | "katakana" => some katakana
  | "le" | "aletter" => some wordLetters
  | "ml" | "midletter" => some (listed "3a b7 387 55f 5f4 2027 fe13 fe55 ff1a")
  | "mn" | "midnum" =>
    some (listed "2c 3b 37e 589 60c-60d 66c 7f8 2044 fe50 fe54 ff0c ff1b")
  | "mb" | "midnumlet" => some (listed "2e 2018-2019 2024 fe52 ff07 ff0e")
  | "nu" | "numeric" => some numberChars
  | "ex" | "extendnumlet" => some ((category ["Pc"]).union (listed "202f"))
  | "wsegspace" => some ((category ["Zs"]).diff (listed "a0 2007 202f"))
  | _ => none

/-! ### Sentences -/

/-- Characters that end a paragraph. -/
def paragraphSeparators : CharSet := listed "85 2028-2029"

/-- Marks that are passed over after the first character of a sentence. -/
def sentenceExtenders : CharSet :=
  graphemeExtend.union ((category ["Mc"]).union (listed "200d"))

/-- Format characters that are passed over; the sign of an abbreviation is one of them. -/
def sentenceFormats : CharSet :=
  ((category ["Cf"]).diff (prependedMarks.union sentenceExtenders)).union (listed "70f")

/-- Lower-case characters, without the Georgian letters that no capital starts a sentence for. -/
def sentenceLower : CharSet :=
  lowercase.diff (graphemeExtend.union (listed "10d0-10fa 10fd-10ff"))

/-- Characters that may start a sentence because of their case. -/
def sentenceUpper : CharSet :=
  (uppercase.union (category ["Lt"])).diff (listed "1c90-1cba 1cbd-1cbf")

/-- Letters that have no case here. -/
def sentenceLetters : CharSet :=
  (alphabetic.union (listed "5f3")).diff
    (CharSet.unions [sentenceLower, sentenceUpper, sentenceExtenders])

/-- Full stops that also end abbreviations and divide numbers. -/
def ambiguousStops : CharSet := listed "2e 2024 fe52 ff0e"

/-- Characters that always end a sentence. -/
def sentenceStops : CharSet := (readRanges sentenceTerminalRows).diff ambiguousStops

/-- Brackets and quotation marks that may follow the end of a sentence. -/
def sentenceClosers : CharSet :=
  (category ["Ps", "Pe", "Pi", "Pf"]).union
    (listed "22 27 275b-2760 2e00-2e01 2e06-2e08 2e0b 1f676-1f678")

/-- Punctuation after which a sentence goes on. -/
def sentenceContinuers : CharSet :=
  listed ("2c-2d 3a-3b 37e 55d 60c-60d 7f8 1802 1808 2013-2014 3001 fe10-fe11 fe13-fe14 " ++
    "fe31-fe32 fe50-fe51 fe54-fe55 fe58 fe63 ff0c-ff0d ff1a-ff1b ff64")

/-- A break class of sentences by one of its names, in lower case and without separators. -/
def sentenceBreak? (name : String) : Option CharSet :=
  match name with
  | "cr" => some (listed "d")
  | "lf" => some (listed "a")
  | "ex" | "extend" => some sentenceExtenders
  | "se" | "sep" => some paragraphSeparators
  | "fo" | "format" => some sentenceFormats
  | "sp" => some ((readRanges whiteSpaceRows).diff ((listed "a d").union paragraphSeparators))
  | "lo" | "lower" => some sentenceLower
  | "up" | "upper" => some sentenceUpper
  | "le" | "oletter" => some sentenceLetters
  | "nu" | "numeric" => some (numberChars.union (listed "66c"))
  | "at" | "aterm" => some ambiguousStops
  | "sc" | "scontinue" => some sentenceContinuers
  | "st" | "sterm" => some sentenceStops
  | "cl" | "close" => some sentenceClosers
  | _ => none

end Feel.Unicode
