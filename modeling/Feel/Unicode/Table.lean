import Feel.CharSet

/-!
# Tables of character data

Character data is kept as rows of text. A *run table* covers the code points from zero on by runs: a
word and the number of characters in the run, such as `Lu26`. A *range table* lists ranges by their
hexadecimal ends, such as `41-5a`, or single code points.
-/

namespace Feel.Unicode

def hexDigit? (c : Char) : Option Nat :=
  let n := c.toNat
  if 48 ≤ n && n ≤ 57 then some (n - 48)
  else if 97 ≤ n && n ≤ 102 then some (n - 87)
  else if 65 ≤ n && n ≤ 70 then some (n - 55)
  else none

def hexNumber (cs : List Char) : Nat :=
  cs.foldl (fun n c => 16 * n + (hexDigit? c).getD 0) 0

def words (row : String) : List (List Char) := go [] row.toList
where
  go (word : List Char) : List Char → List (List Char)
    | [] => if word.isEmpty then [] else [word.reverse]
    | c :: cs =>
      if c == ' ' then if word.isEmpty then go [] cs else word.reverse :: go [] cs
      else go (c :: word) cs

/-- A range written `lo-hi` or `lo` in hexadecimal. -/
def readRange (word : List Char) : Nat × Nat :=
  let lo := word.takeWhile (· != '-')
  let hi := (word.dropWhile (· != '-')).drop 1
  (hexNumber lo, hexNumber (if hi.isEmpty then lo else hi))

/-- The set that a range table lists. -/
def readRanges (rows : List String) : CharSet :=
  CharSet.ofRanges (rows.flatMap fun row => (words row).map readRange)

/-- A run of characters that share a word. -/
structure Run where
  word : String
  first : Nat
  last : Nat
  deriving Repr

/-- The runs of a run table. -/
def readRuns (rows : List String) : List Run :=
  (rows.foldl row (#[], 0)).1.toList
where
  row (state : Array Run × Nat) (text : String) : Array Run × Nat :=
    (words text).foldl run state
  run (state : Array Run × Nat) (word : List Char) : Array Run × Nat :=
    let (runs, start) := state
    let count := (word.dropWhile fun c => !c.isDigit).foldl (fun n c => 10 * n + (c.toNat - 48)) 0
    let name := String.ofList (word.takeWhile fun c => !c.isDigit)
    (runs.push ⟨name, start, start + count - 1⟩, start + count)

/-- The characters whose run has a word of the given class. -/
def charsOf (runs : List Run) (p : String → Bool) : CharSet :=
  ⟨CharSet.joinRanges ((runs.filter fun r => p r.word).map fun r => (r.first, r.last))⟩

end Feel.Unicode
