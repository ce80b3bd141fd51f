/-! # Ranges of code points

A property of characters is a list of the closed ranges of code points that have it, in ascending
order and apart from one another.
-/

namespace TunnelProvisioning

/-- The closed ranges of the code points that have a property. -/
structure CodeRanges where
  ranges : List (Nat × Nat)

def CodeRanges.contains (property : CodeRanges) (c : Char) : Bool :=
  property.ranges.any fun (first, last) => first ≤ c.toNat && c.toNat ≤ last

end TunnelProvisioning
