import ChainFeed.Data.Bits

/-!
# Base 64

Bytes in digits of six bits, filled up with equals signs to groups of four.
-/

namespace ChainFeed.Base64

def alphabet : List Char :=
  "ABCDEFGHIJKLMNOPQRSTUVWXYZabcdefghijklmnopqrstuvwxyz0123456789+/".toList

def digitChar (d : Nat) : Char := alphabet.getD d 'A'

def digitValue? (c : Char) : Option Nat := alphabet.idxOf? c

def encode (bytes : List UInt8) : List Char :=
  let bits := bytes.flatMap fun b => Bits.ofNat 8 b.toNat
  let count := (bits.length + 5) / 6
  let digits := Bits.groups 6 count (bits ++ List.replicate (6 * count - bits.length) false)
  digits.map digitChar ++ List.replicate ((4 - count % 4) % 4) '='

/-- Takes the filling away. It is either complete or left out. -/
def unfilled? (text : List Char) : Option (List Char) :=
  let digits := text.takeWhile (· ≠ '=')
  let filling := text.drop digits.length
  let missing := (4 - digits.length % 4) % 4
  if missing ≠ 3 && filling.all (· = '=') && (filling.isEmpty || filling.length = missing) then
    some digits
  else none

/-- Reads what `encode` writes. The bits that are left over do not count. -/
def decode? (text : List Char) : Option (List UInt8) := do
  let digits ← (← unfilled? text).mapM digitValue?
  let bits := digits.flatMap (Bits.ofNat 6)
  return (Bits.groups 8 (bits.length / 8) bits).map Nat.toUInt8

end ChainFeed.Base64
