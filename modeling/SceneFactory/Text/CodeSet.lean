/-!
# Sets of characters given by their boundaries

A property of characters is stored as the increasing list of code points at
which it changes, starting from "not in the set". A code point is in the set iff
an odd number of boundaries lie at or below it.
-/

namespace SceneFactory

/-- The boundaries of a set of code points, in increasing order. -/
structure CodeSet where
  boundaries : List Nat

namespace CodeSet

/-- Walks the boundaries up to a code point. -/
def inside (c : Nat) : List Nat → Bool
  | [] => false
  | b :: rest => if c < b then false else !inside c rest

/-- Whether a character is in the set. -/
def contains (s : CodeSet) (c : Char) : Bool := inside c.toNat s.boundaries

end CodeSet

end SceneFactory
