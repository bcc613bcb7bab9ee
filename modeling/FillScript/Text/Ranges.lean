/-!
# Ranges of characters

Properties of Unicode characters are kept as tables of ranges of character numbers.
-/

namespace FillScript.Text

/-- Whether a character number lies in one of the ranges, which have both their ends. -/
def inRanges (ranges : List (Nat × Nat)) (n : Nat) : Bool :=
  ranges.any fun (first, last) => first ≤ n && n ≤ last

end FillScript.Text
