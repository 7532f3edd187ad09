/-!
# Ranges of characters

Classes of characters given by the ranges of their code points. `isIn` is membership in such a
table.
-/

namespace Storefront.Text

/-- Ranges of code points, each from its first to its last, in ascending order. -/
abbrev CodeRanges := List (Nat × Nat)

/-- The code point of a character lies in one of the ranges. -/
def isIn (ranges : CodeRanges) (c : Char) : Bool :=
  ranges.any fun (first, last) ↦ first ≤ c.toNat && c.toNat ≤ last

end Storefront.Text
