import ChainFeed.Chain.Stamp
import ChainFeed.Data.Distinct

/-!
# Mempool differences

What a mempool listing adds to the known ids, in listing order and each id once, and which known
ids it no longer lists.
-/

namespace ChainFeed

structure Delta where
  added : List Txid
  removed : List Txid
  deriving DecidableEq

namespace Delta

def isEmpty (d : Delta) : Bool := d.added.isEmpty && d.removed.isEmpty

/-- The ids of a listing that are not in `seen`, each at its first place. -/
def fresh (seen : Distinct Txid) : List Txid → List Txid
  | [] => []
  | t :: rest => if t ∈ seen then fresh seen rest else t :: fresh (seen.insert t) rest

def between (known : Distinct Txid) (listing : List Txid) : Delta :=
  ⟨fresh known listing, known.items.filter (· ∉ listing)⟩

end Delta

end ChainFeed
