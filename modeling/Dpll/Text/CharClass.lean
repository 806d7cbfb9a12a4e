/-!
Sets of characters, given by ranges of code points.
-/

namespace Dpll.Text

/-- The first and the last code point of each range, in ascending order. -/
structure CharClass where
  ranges : List (Nat × Nat)

def CharClass.contains (cls : CharClass) (c : Char) : Bool :=
  cls.ranges.any fun range => range.1 ≤ c.toNat && c.toNat ≤ range.2

end Dpll.Text
