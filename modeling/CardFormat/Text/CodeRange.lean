/-
This file holds sets of characters that are given by ranges of code points, the
form in which the character database states its properties.
-/

namespace CardFormat.Text

/-- The code point lies in one of the ranges, ends included. -/
def inRanges (ranges : List (Nat × Nat)) (code : Nat) : Bool :=
  ranges.any fun range => range.1 ≤ code && code ≤ range.2

end CardFormat.Text
