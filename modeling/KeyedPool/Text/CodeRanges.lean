/-!
# Classes of characters as ranges of code points

A property of characters is given as an ascending list of inclusive ranges of code points.

* `KeyedPool.Text.CodeRanges.contains`: whether a character lies in one of the ranges.
-/

namespace KeyedPool.Text

/-- An ascending list of inclusive ranges of code points. -/
abbrev CodeRanges := List (Nat × Nat)

namespace CodeRanges

/-- Whether a character lies in one of the ranges. -/
def contains (ranges : CodeRanges) (c : Char) : Bool :=
  ranges.any fun r => r.1 ≤ c.toNat && c.toNat ≤ r.2

end CodeRanges

end KeyedPool.Text
