import ChainFeed.Chain.Block
import ChainFeed.Error

/-!
# Backends

What a connection asks of a node. The answers come in a monad: a simulated node answers from its
state, a client of a remote one by sending requests, and a `Source` at once.
-/

namespace ChainFeed

structure Backend (m : Type → Type) where
  network : m (Except Error Network)
  best : m (Except Error Stamp)
  /-- The block at a height of the best chain. -/
  block : Height → m (Except Error Block)
  /-- The ids of all transactions in the mempool. -/
  mempool : m (Except Error (List Txid))
  transaction : Txid → m (Except Error Transaction)

/-- A node at one moment: the answer to every question. -/
abbrev Source := Backend Id

end ChainFeed
