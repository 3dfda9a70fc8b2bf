/-!
Classes of characters, given by the first and last code points of runs in ascending order.
-/
namespace TrackerFilter

namespace Text

def inRanges (ranges : List (Nat × Nat)) (c : Char) : Bool :=
  ranges.any fun r => decide (r.1 ≤ c.toNat) && decide (c.toNat ≤ r.2)

end Text

end TrackerFilter
