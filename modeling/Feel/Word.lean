/-!
# Machine words

The bounds of whole numbers that have to fit words of 32 or 64 bits.
-/

namespace Feel.Word

/-- How many values a word of 32 bits has: `2 ^ 32`. -/
def count32 : Nat := 0x100000000

/-- How many values a word of 64 bits has: `2 ^ 64`. -/
def count64 : Nat := 0x10000000000000000

/-- The largest number of 32 bits with a sign: `2 ^ 31 - 1`. -/
def max32 : Nat := 0x7FFFFFFF

/-- The largest number of 64 bits with a sign: `2 ^ 63 - 1`. -/
def max64 : Nat := 0x7FFFFFFFFFFFFFFF

end Feel.Word
