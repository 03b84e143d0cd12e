/-!
# Ranges of code points

A property of characters is a sorted list of inclusive ranges of code points; a character has
the property when one of the ranges holds its code point.
-/

namespace Rollout.Text

/-- Inclusive ranges of code points, sorted and disjoint. -/
abbrev Ranges := List (Nat × Nat)

namespace Ranges

/-- The search stops at the first range that begins beyond the code point. -/
def holds : Ranges → Nat → Bool
  | [], _ => false
  | (lo, hi) :: rest, c => if c < lo then false else if c ≤ hi then true else holds rest c

end Ranges

end Rollout.Text
