import ChainFeed.Bytes.Hex
import ChainFeed.Hash.Sha256

/-!
# Digests

A digest is 32 bytes. Its text form is 64 hexadecimal digits with the last byte first, and reading
that text gives the digest back.
-/

namespace ChainFeed

structure Digest where
  bytes : List UInt8
  length_bytes : bytes.length = 32
  deriving DecidableEq

namespace Digest

/-- One byte, 32 times. -/
def fill (b : UInt8) : Digest := ⟨List.replicate 32 b, List.length_replicate⟩

def zero : Digest := fill 0

instance : Inhabited Digest := ⟨zero⟩

def sha256 (message : List UInt8) : Digest := ⟨Sha256.hash message, Sha256.length_hash message⟩

/-- The hash that names blocks and transactions: SHA-256 of SHA-256. -/
def doubleSha256 (message : List UInt8) : Digest := sha256 (Sha256.hash message)

def ofBytes? (bytes : List UInt8) : Option Digest :=
  if h : bytes.length = 32 then some ⟨bytes, h⟩ else none

def text (d : Digest) : List Char := Hex.encode d.bytes.reverse

def ofText? (text : List Char) : Option Digest :=
  (Hex.decode? text).bind fun bytes => ofBytes? bytes.reverse

def render (d : Digest) : String := String.ofList d.text

instance : ToString Digest := ⟨render⟩

def ofString? (s : String) : Option Digest := ofText? s.toList

@[simp] theorem ofBytes?_bytes (d : Digest) : ofBytes? d.bytes = some d := by
  simp [ofBytes?, d.length_bytes]

end Digest

end ChainFeed
