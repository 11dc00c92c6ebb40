import ChainFeed.Consensus.Transaction

/-!
# Blocks

A block names its parent in its header, and is itself named by the hash of that header.
-/

namespace ChainFeed

structure Header where
  version : Int32
  parent : BlockHash
  merkleRoot : Digest
  time : UInt32
  target : UInt32
  nonce : UInt32
  deriving DecidableEq

structure Block where
  header : Header
  transactions : List Transaction
  deriving DecidableEq

namespace Header

open Consensus

def encode (h : Header) : List UInt8 :=
  encodeWord h.version.toUInt32 ++ h.parent.bytes ++ h.merkleRoot.bytes ++ encodeWord h.time ++
    encodeWord h.target ++ encodeWord h.nonce

def reader : Reader Header := do
  let version ← readWord
  let parent ← readDigest
  let merkleRoot ← readDigest
  let time ← readWord
  let target ← readWord
  let nonce ← readWord
  pure ⟨version.toInt32, parent, merkleRoot, time, target, nonce⟩

def hash (h : Header) : BlockHash := .doubleSha256 h.encode

end Header

namespace Block

open Consensus

def hash (b : Block) : BlockHash := b.header.hash

def parent (b : Block) : BlockHash := b.header.parent

def txids (b : Block) : List Txid := b.transactions.map Transaction.txid

def encode (b : Block) : List UInt8 :=
  b.header.encode ++ encodeVector Transaction.encode b.transactions

def reader : Reader Block := do
  let header ← Header.reader
  let transactions ← readVector Transaction.reader
  pure ⟨header, transactions⟩

end Block

structure PlacedBlock where
  height : Height
  block : Block
  deriving DecidableEq

def PlacedBlock.stamp (b : PlacedBlock) : Stamp := ⟨b.height, b.block.hash⟩

end ChainFeed
