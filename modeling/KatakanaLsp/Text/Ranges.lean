/-!
# Tables of code points

A property of characters that follows no formula is a table of closed ranges of code points.
-/

namespace KatakanaLsp.Text

/-- Whether a number lies in one of the closed ranges of a table. -/
def inRanges (table : List (Nat × Nat)) (n : Nat) : Bool :=
  table.any fun r => r.1 ≤ n && n ≤ r.2

end KatakanaLsp.Text
