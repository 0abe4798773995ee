/-
Sets of code points, listed as ranges in rising order.  The tables of character classes are
values of this type, and membership stops at the first range that lies above the code point.
-/
namespace GrammarSieve.Text

/-- Ranges of code points with both ends included, in rising order. -/
abbrev CodeRanges := List (Nat × Nat)

/-- The code point lies in one of the ranges. -/
def CodeRanges.contains : CodeRanges → Nat → Bool
  | [], _ => false
  | (low, high) :: rest, n =>
      if n < low then false
      else n ≤ high || CodeRanges.contains rest n

end GrammarSieve.Text
