/-!
# Range — classes of characters by their code points

A class of characters is given by closed ranges of code points, and a code
point is in the class if it is in one of them.
-/


namespace Conformance

namespace Text

/-- Whether a code point is in one of some ranges. -/
def inRanges (ranges : List (Nat × Nat)) (n : Nat) : Bool :=
  ranges.any fun (first, last) => first ≤ n && n ≤ last

end Text

end Conformance
