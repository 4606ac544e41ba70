/-!
# Ranges of code points

A property of characters is given by the code points that have it, listed as ranges in ascending
order with both ends included.
-/

namespace ProgramTree

/-- The first and the last code point of a range. -/
abbrev CodePointRange := Nat × Nat

/-- Whether a code point lies in one of the ranges. -/
def inRanges (ranges : List CodePointRange) (codePoint : Nat) : Bool :=
  ranges.any fun range => range.1 ≤ codePoint && codePoint ≤ range.2

end ProgramTree
