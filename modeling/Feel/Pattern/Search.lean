import Feel.Pattern.Program

/-!
# Searching with programs

A search keeps a list of threads in order of preference and moves them over the text one character at
a time. A thread that accepts cuts off the less preferred ones, and no thread starts once a match is
found, so the result is the leftmost match, and of those the most preferred one.
-/

namespace Feel.Pattern

/-- A place in the text: the character before it, how many characters are before it, and the rest. -/
structure Place where
  before : Option Char
  position : Nat
  rest : List Char
  deriving Repr

def Place.start (text : List Char) : Place := ⟨none, 0, text⟩

def Place.next (p : Place) : Place :=
  match p.rest with
  | [] => p
  | c :: cs => ⟨some c, p.position + 1, cs⟩

def Place.skip (p : Place) : Nat → Place
  | 0 => p
  | n + 1 => p.next.skip n

def isAsciiWord (c : Char) : Bool := c.isAlphanum || c == '_'

/-- Tests for a word character; there is none outside the text. -/
def isWordAt (unicode : Bool) : Option Char → Bool
  | none => false
  | some c => if unicode then Unicode.wordChars.contains c else isAsciiWord c

/-- Whether a condition holds between two characters. -/
def Look.holds (before after : Option Char) : Look → Bool
  | .textStart => before.isNone
  | .textEnd => after.isNone
  | .lineStart => before.isNone || before == some '\n'
  | .lineEnd => after.isNone || after == some '\n'
  | .lineStartCrlf =>
    before.isNone || before == some '\n' || (before == some '\r' && after != some '\n')
  | .lineEndCrlf =>
    after.isNone || after == some '\r' || (after == some '\n' && before != some '\r')
  | .word side unicode =>
    let b := isWordAt unicode before
    let a := isWordAt unicode after
    match side with
    | .boundary => b != a
    | .notBoundary => b == a
    | .start => !b && a
    | .ending => b && !a
    | .startHalf => !b
    | .endHalf => !a

/-- Where the groups of a match start and end, two slots for each group. -/
abbrev Slots := Array (Option Nat)

structure Thread where
  pc : Nat
  slots : Slots

/-- How many instructions an instruction leads to. -/
def Inst.degree : Inst → Nat
  | .chars _ _ | .look _ _ | .save _ _ => 1
  | .choice nexts => nexts.length
  | .accept => 0

/-- Follows the instructions that take no character. Each is followed once; the threads that wait for a
character or accept come out in order of preference, latest first. -/
def follow (code : Array Inst) (p : Place) : (fuel : Nat) → (todo : List Thread) →
    (seen : Array Bool) → (ready : List Thread) → List Thread
  | 0, _, _, ready => ready
  | _, [], _, ready => ready
  | fuel + 1, t :: todo, seen, ready =>
    if seen.getD t.pc true then follow code p fuel todo seen ready
    else
      let seen := seen.setIfInBounds t.pc true
      match code[t.pc]? with
      | some (.choice nexts) =>
        follow code p fuel (nexts.map (fun pc => ⟨pc, t.slots⟩) ++ todo) seen ready
      | some (.look condition next) =>
        if condition.holds p.before p.rest.head? then
          follow code p fuel (⟨next, t.slots⟩ :: todo) seen ready
        else follow code p fuel todo seen ready
      | some (.save slot next) =>
        follow code p fuel (⟨next, t.slots.setIfInBounds slot (some p.position)⟩ :: todo) seen ready
      | some (.chars _ _) | some .accept => follow code p fuel todo seen (t :: ready)
      | none => follow code p fuel todo seen ready

/-- Moves waiting threads over a character, up to the first one that accepts. -/
def advance (code : Array Inst) (c : Option Char) : List Thread → List Thread × Option Slots
  | [] => ([], none)
  | t :: ts =>
    match code[t.pc]? with
    | some .accept => ([], some t.slots)
    | some (.chars set next) =>
      let (moved, hit) := advance code c ts
      if c.any set.contains then (⟨next, t.slots⟩ :: moved, hit) else (moved, hit)
    | _ => advance code c ts

/-- A bound on the instructions that are followed at one place. -/
def Program.edges (p : Program) : Nat := p.code.foldl (fun n i => n + i.degree) 1

/-- The slots of the best match that one of the threads, or a new one, leads to. -/
def Program.run (prog : Program) (edges : Nat) (threads : List Thread) (best : Option Slots)
    (before : Option Char) (position : Nat) (rest : List Char) : Option Slots :=
  let threads :=
    if best.isNone then threads ++ [⟨prog.start, Array.replicate (2 * prog.groups) none⟩]
    else threads
  if threads.isEmpty then best
  else
    let seen := Array.replicate prog.code.size false
    let ready := follow prog.code ⟨before, position, rest⟩ (edges + threads.length) threads seen []
    let (moved, hit) := advance prog.code rest.head? ready.reverse
    match rest with
    | [] => hit <|> best
    | c :: cs => prog.run edges moved (hit <|> best) (some c) (position + 1) cs

/-- Where a group of a match stands in the text. -/
structure Span where
  first : Nat
  last : Nat
  deriving Repr, DecidableEq

/-- A match: the place of the whole, and of the groups that took part. -/
structure Match where
  whole : Span
  groups : List (Option Span)
  deriving Repr

def Match.ofSlots? (groups : Nat) (slots : Slots) : Option Match :=
  let span (i : Nat) : Option Span := do
    let first ← slots.getD (2 * i) none
    let last ← slots.getD (2 * i + 1) none
    some ⟨first, last⟩
  (span 0).map fun whole => ⟨whole, (List.range groups).map span⟩

/-- The first match at or after a place. -/
def Program.search (prog : Program) (p : Place) : Option Match :=
  (prog.run prog.edges [] none p.before p.position p.rest).bind (Match.ofSlots? prog.groups)

end Feel.Pattern
