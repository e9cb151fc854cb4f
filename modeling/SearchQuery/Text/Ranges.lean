/-!
Sets of characters given as ranges of code points.
-/

namespace SearchQuery.Text

/-- Inclusive ranges of code points, in ascending order and disjoint. -/
abbrev Ranges := List (Nat × Nat)

/-- Whether a code point lies in one of the ranges. The search ends at the first range above it. -/
def Ranges.has : Ranges → Nat → Bool
  | [], _ => false
  | (first, last) :: rest, n => first ≤ n && (n ≤ last || Ranges.has rest n)

end SearchQuery.Text
