/-!
# Bits

Numbers as bits, highest first, and rows of bits cut into numbers of one width.
-/

namespace ChainFeed.Bits

def ofNat : Nat → Nat → List Bool
  | 0, _ => []
  | width + 1, n => n.testBit width :: ofNat width n

def toNat (bits : List Bool) : Nat := bits.foldl (fun n b => 2 * n + b.toNat) 0

/-- The first `count` numbers of `width` bits. -/
def groups (width : Nat) : Nat → List Bool → List Nat
  | 0, _ => []
  | count + 1, bits => toNat (bits.take width) :: groups width count (bits.drop width)

@[simp] theorem length_ofNat (width n : Nat) : (ofNat width n).length = width := by
  induction width with
  | zero => rfl
  | succ width ih => simp [ofNat, ih]

@[simp] theorem length_groups (width count : Nat) (bits : List Bool) :
    (groups width count bits).length = count := by
  induction count generalizing bits with
  | zero => rfl
  | succ count ih => simp [groups, ih]

end ChainFeed.Bits
