/-!
# Sets of characters

A set of code points is a list of ranges in ascending order, each below the next and not touching it.
`ofRanges` brings any list of ranges into this form.
-/

namespace Feel

/-- Inclusive ranges of code points, ascending and apart from each other. -/
structure CharSet where
  ranges : List (Nat × Nat)
  deriving Repr, DecidableEq, Inhabited

namespace CharSet

def maxCode : Nat := 0x10FFFF

def memRanges (n : Nat) : List (Nat × Nat) → Bool
  | [] => false
  | (lo, hi) :: rest => if n < lo then false else n ≤ hi || memRanges n rest

def hasCode (s : CharSet) (n : Nat) : Bool := memRanges n s.ranges

def contains (s : CharSet) (c : Char) : Bool := s.hasCode c.toNat

def empty : CharSet := ⟨[]⟩

def isEmpty (s : CharSet) : Bool := s.ranges.isEmpty

def all : CharSet := ⟨[(0, maxCode)]⟩

def range (lo hi : Nat) : CharSet := ⟨[(lo, hi)]⟩

def singleton (c : Char) : CharSet := range c.toNat c.toNat

/-- Joins ranges, given by ascending lower end, that overlap or touch. -/
def joinRanges : List (Nat × Nat) → List (Nat × Nat)
  | [] => []
  | (lo, hi) :: rest => go lo hi rest
where
  go (lo hi : Nat) : List (Nat × Nat) → List (Nat × Nat)
    | [] => [(lo, hi)]
    | (lo', hi') :: rest =>
      if lo' ≤ hi + 1 then go lo (max hi hi') rest else (lo, hi) :: go lo' hi' rest

def ofRanges (rs : List (Nat × Nat)) : CharSet :=
  ⟨joinRanges (rs.mergeSort fun a b => a.1 ≤ b.1)⟩

def union (s t : CharSet) : CharSet :=
  ⟨joinRanges (s.ranges.merge t.ranges fun a b => a.1 ≤ b.1)⟩

def unions (sets : List CharSet) : CharSet := ofRanges (sets.flatMap ranges)

/-- The gaps between ascending ranges from `start` on. -/
def gaps (start : Nat) : List (Nat × Nat) → List (Nat × Nat)
  | [] => if start ≤ maxCode then [(start, maxCode)] else []
  | (lo, hi) :: rest =>
    if start < lo then (start, lo - 1) :: gaps (hi + 1) rest else gaps (hi + 1) rest

def complement (s : CharSet) : CharSet := ⟨gaps 0 s.ranges⟩

def complementIf (negated : Bool) (s : CharSet) : CharSet := if negated then s.complement else s

def inter (s t : CharSet) : CharSet := (s.complement.union t.complement).complement

def diff (s t : CharSet) : CharSet := (s.complement.union t).complement

def symmDiff (s t : CharSet) : CharSet := (s.union t).diff (s.inter t)

end CharSet

end Feel
