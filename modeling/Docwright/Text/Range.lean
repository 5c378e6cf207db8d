/-!
# Sets of code points

A set of characters given by a Unicode property is kept as a list of closed ranges of code points.
-/

namespace Docwright.Text

/-- Does one of the closed ranges hold the code point `n`? -/
def inRanges (ranges : List (Nat × Nat)) (n : Nat) : Bool :=
  ranges.any fun r => r.1 ≤ n && n ≤ r.2

end Docwright.Text
