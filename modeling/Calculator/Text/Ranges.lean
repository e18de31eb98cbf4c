/-!
# Ranges of characters

A property of characters is given as closed ranges of code points.
-/

namespace Calculator.Text

/-- Whether a character lies in one of the ranges. -/
def inRanges (ranges : List (Nat × Nat)) (c : Char) : Bool :=
  ranges.any fun range => range.1 ≤ c.toNat && c.toNat ≤ range.2

end Calculator.Text
