import Feel.Decimal.Text
import Feel.Entries
import Feel.Unicode.Table

/-!
# Documents

Documents are read strictly. Numbers keep their text, apart from the exponent, which is written with a
small letter and a sign. A name that occurs again in an object keeps its first place and takes its last
value. An object that starts with the name reserved for numbers stands for a number. `parse?` reads a
whole text, `readValue?` what stands at its front.
-/

namespace Feel

inductive Json where
  | null
  | bool (b : Bool)
  | number (text : String)
  | string (s : String)
  | array (items : List Json)
  | object (fields : List (String × Json))

namespace Json

def maxDepth : Nat := 127

def isBlank (c : Char) : Bool := c == ' ' || c == '\t' || c == '\n' || c == '\r'

def skipBlank (cs : List Char) : List Char := cs.dropWhile isBlank

/-! ### Numbers -/

/-- Digits, at least one, and what follows. -/
def readDigits? (cs : List Char) : Option (List Char × List Char) :=
  let digits := cs.takeWhile Char.isDigit
  if digits.isEmpty then none else some (digits, cs.dropWhile Char.isDigit)

/-- A point and digits, if there is a point. -/
def readFraction? : List Char → Option (List Char × List Char)
  | '.' :: cs => (readDigits? cs).map fun (digits, rest) => ('.' :: digits, rest)
  | cs => some ([], cs)

/-- The sign and the digits of an exponent. -/
def readSignedDigits? : List Char → Option (List Char × List Char)
  | '-' :: cs => (readDigits? cs).map fun (digits, rest) => ('-' :: digits, rest)
  | '+' :: cs => (readDigits? cs).map fun (digits, rest) => ('+' :: digits, rest)
  | cs => (readDigits? cs).map fun (digits, rest) => ('+' :: digits, rest)

/-- An exponent, if there is one. -/
def readExponent? : List Char → Option (List Char × List Char)
  | c :: cs =>
    if c == 'e' || c == 'E' then
      (readSignedDigits? cs).map fun (exponent, rest) => ('e' :: exponent, rest)
    else some ([], c :: cs)
  | [] => some ([], [])

/-- A number without its minus. The whole digits do not start with a superfluous zero. -/
def readMagnitude? (cs : List Char) : Option (List Char × List Char) := do
  let (whole, rest) ← readDigits? cs
  if whole.head? = some '0' ∧ 1 < whole.length then none
  let (fraction, rest) ← readFraction? rest
  let (exponent, rest) ← readExponent? rest
  return (whole ++ fraction ++ exponent, rest)

def readNumber? : List Char → Option (List Char × List Char)
  | '-' :: cs => (readMagnitude? cs).map fun (text, rest) => ('-' :: text, rest)
  | cs => readMagnitude? cs

/-! ### Strings -/

def hexWord? (a b c d : Char) : Option Nat := do
  let a ← Unicode.hexDigit? a
  let b ← Unicode.hexDigit? b
  let c ← Unicode.hexDigit? c
  let d ← Unicode.hexDigit? d
  return ((a * 16 + b) * 16 + c) * 16 + d

/-- The character that stands after a backslash for another. -/
def escaped? : Char → Option Char
  | '"' => some '"'
  | '\\' => some '\\'
  | '/' => some '/'
  | 'b' => some '\x08'
  | 'f' => some '\x0c'
  | 'n' => some '\n'
  | 'r' => some '\r'
  | 't' => some '\t'
  | _ => none

/-- The character that a pair of surrogates stands for. -/
def ofSurrogates? (high low : Nat) : Option Char :=
  if 0xD800 ≤ high ∧ high ≤ 0xDBFF ∧ 0xDC00 ≤ low ∧ low ≤ 0xDFFF then
    some (Char.ofNat (0x10000 + (high - 0xD800) * 0x400 + (low - 0xDC00)))
  else none

/-- The rest of a string after its opening quote, and what follows the closing one. -/
def readString? : List Char → Option (List Char × List Char)
  | [] => none
  | '"' :: rest => some ([], rest)
  | '\\' :: 'u' :: a :: b :: c :: d :: rest => do
    let code ← hexWord? a b c d
    if code < 0xD800 ∨ 0xDFFF < code then
      let (text, rest) ← readString? rest
      return (Char.ofNat code :: text, rest)
    else
      match rest with
      | '\\' :: 'u' :: a :: b :: c :: d :: rest =>
        let char ← ofSurrogates? code (← hexWord? a b c d)
        let (text, rest) ← readString? rest
        return (char :: text, rest)
      | _ => none
  | '\\' :: c :: rest => do
    let char ← escaped? c
    let (text, rest) ← readString? rest
    return (char :: text, rest)
  | c :: rest =>
    if c == '\\' || c.toNat < 32 then none
    else (readString? rest).map fun (text, rest) => (c :: text, rest)

/-! ### Values -/

/-- The name reserved for numbers. The only field of an object, it holds the text of a number. -/
def numberName : String := "$serde_json::private::Number"

/-- The number that a text consists of. -/
def ofNumberText? (text : String) : Option Json :=
  match readNumber? text.toList with
  | some (digits, []) => some (number (String.ofList digits))
  | _ => none

/-- What the fields of an object stand for. After the name reserved for numbers, when it comes first,
only the text of a number may stand, and no other field. -/
def ofFields? : List (String × Json) → Option Json
  | [] => some (object [])
  | (name, value) :: rest =>
    if name = numberName then
      match value, rest with
      | .string text, [] => ofNumberText? text
      | _, _ => none
    else some (object (Entries.ofList ((name, value) :: rest)))

/-- One of the three words. -/
def readWord? (cs : List Char) : Option (Json × List Char) :=
  (Text.dropPrefix? ['n', 'u', 'l', 'l'] cs).map (null, ·) <|>
    (Text.dropPrefix? ['t', 'r', 'u', 'e'] cs).map (bool true, ·) <|>
    (Text.dropPrefix? ['f', 'a', 'l', 's', 'e'] cs).map (bool false, ·)

mutual

/-- A value, and what follows it. Arrays and objects may be nested `depth` times. -/
def readValue? : (fuel depth : Nat) → List Char → Option (Json × List Char)
  | 0, _, _ => none
  | fuel + 1, depth, cs =>
    match skipBlank cs with
    | [] => none
    | '"' :: rest => (readString? rest).map fun (s, rest) => (string (String.ofList s), rest)
    | '[' :: rest =>
      if depth = 0 then none
      else
        match skipBlank rest with
        | ']' :: rest => some (array [], rest)
        | rest => (readItems? fuel (depth - 1) rest).map fun (items, rest) => (array items, rest)
    | '\x7b' :: rest =>
      if depth = 0 then none
      else
        match skipBlank rest with
        | '\x7d' :: rest => some (object [], rest)
        | rest => do
          let (fields, rest) ← readFields? fuel (depth - 1) rest
          return (← ofFields? fields, rest)
    | cs => readWord? cs <|> (readNumber? cs).map fun (text, rest) => (number (String.ofList text), rest)

/-- The items of an array, at least one, up to its end. -/
def readItems? : (fuel depth : Nat) → List Char → Option (List Json × List Char)
  | 0, _, _ => none
  | fuel + 1, depth, cs => do
    let (item, rest) ← readValue? fuel depth cs
    match skipBlank rest with
    | ']' :: rest => some ([item], rest)
    | ',' :: rest => (readItems? fuel depth rest).map fun (items, rest) => (item :: items, rest)
    | _ => none

/-- The fields of an object, at least one, up to its end. -/
def readFields? : (fuel depth : Nat) → List Char → Option (List (String × Json) × List Char)
  | 0, _, _ => none
  | fuel + 1, depth, cs =>
    match skipBlank cs with
    | '"' :: rest => do
      let (name, rest) ← readString? rest
      match skipBlank rest with
      | ':' :: rest => do
        let (value, rest) ← readValue? fuel depth rest
        let field := (String.ofList name, value)
        match skipBlank rest with
        | ',' :: rest =>
          (readFields? fuel depth rest).map fun (fields, rest) => (field :: fields, rest)
        | '\x7d' :: rest => some ([field], rest)
        | _ => none
      | _ => none
    | _ => none

end

/-- The value at the front of a text, and what follows it. -/
def readFirst? (cs : List Char) : Option (Json × List Char) :=
  readValue? (2 * cs.length + 1) maxDepth cs

/-- The value that a text consists of. -/
def ofChars? (cs : List Char) : Option Json :=
  match readFirst? cs with
  | some (value, rest) => if (skipBlank rest).isEmpty then some value else none
  | none => none

def parse? (text : String) : Option Json := ofChars? text.toList

end Json

end Feel
