/-!
# Sets of characters

A set of characters is kept as a list of inclusive ranges of code points in ascending order, the
form in which the properties of characters are tabulated.
-/

namespace Conform.Text

/-- Whether a code point lies in one of the ranges. -/
def inRanges (ranges : List (Nat × Nat)) (code : Nat) : Bool :=
  ranges.any fun (first, last) => first ≤ code && code ≤ last

end Conform.Text
