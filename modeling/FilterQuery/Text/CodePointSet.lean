/-
Sets of code points, written down by their boundaries.

A property of Unicode covers a few hundred stretches of code points. Listing where each stretch
begins and where it ends, in ascending order, gives one flat list of numbers: a code point is in the
set exactly when an odd number of boundaries is at or below it.
-/
set_option autoImplicit false

namespace FilterQuery.Text

/-- A set of code points, given by the ascending list of the points where membership changes. -/
structure CodePointSet where
  boundaries : List Nat

namespace CodePointSet

/-- Is the number of boundaries at or below `n` odd, for an ascending list of them? -/
def isWithin (n : Nat) : List Nat → Bool
  | [] => false
  | b :: bs => if n < b then false else !isWithin n bs

/-- Is the character in the set? -/
def contains (s : CodePointSet) (c : Char) : Bool :=
  isWithin c.toNat s.boundaries

end CodePointSet

end FilterQuery.Text
