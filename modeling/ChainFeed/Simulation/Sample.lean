import ChainFeed.Address.Basic
import ChainFeed.Consensus.Transaction

/-!
# Sample scripts and transactions

Scripts that differ by a tag, and transactions that differ by a nonce in their lock time.
-/

namespace ChainFeed.Sample

def keyHash (tag : UInt8) : List UInt8 := List.replicate 20 tag

/-- A script that pays to a witness key hash of one repeated byte. -/
def script (tag : UInt8) : Script := 0 :: 20 :: keyHash tag

def address (n : Network) (tag : UInt8) : Address :=
  .witness (.ofNetwork n) ⟨0, keyHash tag, by simp [keyHash, isWitnessLength]⟩

def spending (spends : OutPoint) (pays : Script) (nonce : UInt32) : Transaction where
  version := 2
  inputs := [⟨spends, [], 0xffffffff, []⟩]
  outputs := [⟨50000, pays⟩]
  lockTime := nonce

/-- A transaction that spends an output nobody watches. -/
def paying (pays : Script) (nonce : UInt32) : Transaction := spending ⟨.zero, nonce⟩ pays nonce

def unrelated (nonce : UInt32) : Transaction := paying (script 0xee) nonce

end ChainFeed.Sample
