/-!
# Tables of code point ranges

A property of characters is given by the ranges of code points that have it, each with its first
and its last code point.
-/

namespace Funge

/-- Ranges of code points, each given by its first and last. -/
abbrev Ranges := List (Nat × Nat)

/-- A character's code point lies in one of the ranges. -/
def Ranges.covers (table : Ranges) (c : Char) : Bool :=
  table.any fun range => range.1 ≤ c.toNat && c.toNat ≤ range.2

end Funge
