import ChainFeed.Chain.Stamp

/-!
# Walking forward

What a look at the node's best block calls for: nothing when it is the watermark, nothing either
when it is another block no higher, and otherwise every height from just above the watermark.
-/

namespace ChainFeed

inductive Walk where
  | upToDate
  | diverged (watermark best : Stamp)
  | forward (first last : Height)
  deriving DecidableEq

namespace Walk

def plan (watermark best : Stamp) : Walk :=
  if best = watermark then .upToDate
  else if best.height ≤ watermark.height then .diverged watermark best
  else .forward (watermark.height + 1) best.height

def blockCount : Walk → Nat
  | .forward first last => last.toNat + 1 - first.toNat
  | _ => 0

end Walk

end ChainFeed
