/-!
# Ranges of code points

A character class is a list of ranges, ends included.
-/

namespace ChainFeed.Text

def inRanges (ranges : List (Nat × Nat)) (c : Char) : Bool :=
  ranges.any fun (first, last) => first ≤ c.toNat && c.toNat ≤ last

end ChainFeed.Text
