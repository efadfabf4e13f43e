/-!
Sets of characters given by a sorted list of ranges, as the properties of the Unicode standard are
published. The tables themselves stand in the modules beside this one, one property each.
-/

namespace PathRouter.Unicode

/-- A set of characters: the code points in one of the ranges, both ends included. The ranges are
disjoint and in ascending order. -/
structure RangeTable where
  ranges : List (Nat × Nat)

namespace RangeTable

/-- Whether `n` lies in one of the ascending ranges; the search ends at the first range above
`n`. -/
def inRanges (n : Nat) : List (Nat × Nat) → Bool
  | [] => false
  | (lo, hi) :: rest => if n < lo then false else n ≤ hi || inRanges n rest

/-- Whether the set holds the character `c`. -/
def contains (t : RangeTable) (c : Char) : Bool := inRanges c.toNat t.ranges

end RangeTable

end PathRouter.Unicode
