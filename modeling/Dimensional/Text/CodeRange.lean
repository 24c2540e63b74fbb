/-! # Tables of characters -/

namespace Dimensional.Text

/-- Closed ranges of code points, in rising order. -/
structure CodeRanges where
  ranges : Array (Nat × Nat)

/-- The character lies in one of the ranges. -/
def CodeRanges.contains (table : CodeRanges) (c : Char) : Bool :=
  table.ranges.any fun (first, last) => first ≤ c.toNat && c.toNat ≤ last

end Dimensional.Text
