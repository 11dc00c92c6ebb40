import ChainFeed.Bytes.LittleEndian
import ChainFeed.Consensus.Reader

/-!
# Compact sizes

A number below `2 ^ 64` in one, three, five or nine bytes. Only the shortest of the four forms is
read.
-/

namespace ChainFeed.Consensus

namespace CompactSize

def encode (n : Nat) : List UInt8 :=
  if n < 0xfd then [n.toUInt8]
  else if n < UInt16.size then 0xfd :: LittleEndian.encode 2 n
  else if n < UInt32.size then 0xfe :: LittleEndian.encode 4 n
  else 0xff :: LittleEndian.encode 8 n

/-- The count of bytes that `encode n` takes. -/
def width (n : Nat) : Nat :=
  if n < 0xfd then 1 else if n < UInt16.size then 3 else if n < UInt32.size then 5 else 9

@[simp] theorem length_encode (n : Nat) : (encode n).length = width n := by
  unfold encode width
  repeat' split
  all_goals simp

/-- A number of `bytes` bytes that is at least `least`. -/
def readAtLeast (bytes least : Nat) : Reader Nat := do
  let n := LittleEndian.decode (← Reader.bytes bytes)
  if n < least then .fail .nonMinimalSize else pure n

def reader : Reader Nat := do
  let b ← Reader.byte
  if b = 0xfd then readAtLeast 2 0xfd
  else if b = 0xfe then readAtLeast 4 UInt16.size
  else if b = 0xff then readAtLeast 8 UInt32.size
  else pure b.toNat

end CompactSize

end ChainFeed.Consensus
