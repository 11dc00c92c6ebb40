import ChainFeed.Data.Radix
import ChainFeed.Hash.Digest

/-!
# Base 58

Bytes as one number in base 58, with a digit one for every zero byte in front. The alphabet leaves
out the characters that are easily taken for another. In the checked form the bytes are followed by
the first four bytes of their double hash.
-/

namespace ChainFeed.Base58

def alphabet : List Char := "123456789ABCDEFGHJKLMNPQRSTUVWXYZabcdefghijkmnopqrstuvwxyz".toList

def digitChar (d : Nat) : Char := alphabet.getD d '1'

def digitValue? (c : Char) : Option Nat := alphabet.idxOf? c

/-- Changes the base of a number, keeping the count of zeros in front. -/
def rebase (source target : Nat) (digits : List Nat) : List Nat :=
  digits.takeWhile (· == 0) ++
    Radix.digits target (Radix.ofDigits source (digits.dropWhile (· == 0)))

def encode (bytes : List UInt8) : List Char :=
  (rebase 256 58 (bytes.map UInt8.toNat)).map digitChar

def decode? (text : List Char) : Option (List UInt8) :=
  (text.mapM digitValue?).map fun digits => (rebase 58 256 digits).map Nat.toUInt8

def checksum (bytes : List UInt8) : List UInt8 := (Digest.doubleSha256 bytes).bytes.take 4

def encodeChecked (bytes : List UInt8) : List Char := encode (bytes ++ checksum bytes)

/-- The bytes in front of a checksum that fits them. -/
def decodeChecked? (text : List Char) : Option (List UInt8) :=
  match decode? text with
  | none => none
  | some bytes =>
    let payload := bytes.take (bytes.length - 4)
    if 4 ≤ bytes.length && bytes.drop (bytes.length - 4) == checksum payload then some payload
    else none

end ChainFeed.Base58
