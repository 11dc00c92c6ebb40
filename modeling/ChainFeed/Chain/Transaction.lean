import ChainFeed.Chain.Stamp

/-!
# Transactions

A transaction spends outputs of earlier ones, named by outpoints, and makes new outputs.
-/

namespace ChainFeed

abbrev Script := List UInt8

/-- Output number `vout` of the transaction `txid`. -/
structure OutPoint where
  txid : Txid
  vout : UInt32
  deriving DecidableEq

/-- The outpoint that a block's first transaction spends: it names no output. -/
def OutPoint.coinbase : OutPoint := ⟨.zero, 0xffffffff⟩

def OutPoint.render (o : OutPoint) : String := o.txid.render ++ ":" ++ toString o.vout.toNat

structure TxIn where
  spends : OutPoint
  unlocking : Script
  sequence : UInt32
  witness : List (List UInt8)
  deriving DecidableEq

structure TxOut where
  value : UInt64
  script : Script
  deriving DecidableEq

structure Transaction where
  version : Int32
  inputs : List TxIn
  outputs : List TxOut
  lockTime : UInt32
  deriving DecidableEq

end ChainFeed
