import ChainFeed.Connection.Backend
import ChainFeed.Data.Distinct

/-!
# A simulated node

The node starts with a genesis block, mines on demand and keeps its mempool as a list. It can be
told to fail, and it remembers what it was asked.
-/

namespace ChainFeed

inductive Query where
  | network
  | best
  | block
  | mempool
  | transaction
  deriving DecidableEq

/-- The method under which a query fails. -/
def Query.method : Query → String
  | network => "getblockchaininfo"
  | best => "getbestblock"
  | block => "getblock"
  | mempool => "getrawmempool"
  | transaction => "getrawtransaction"

structure Node where
  network : Network
  /-- The blocks above the genesis block, lowest first. -/
  later : List Block
  pool : List Transaction
  failing : Distinct Query
  failingTxids : Distinct Txid
  /-- What has been asked, the latest first. -/
  asked : List Query
  /-- Tells the branches of a reorganised chain apart. -/
  salt : UInt32
  deriving DecidableEq

namespace Node

def coinbase (height : Height) (salt : UInt32) : Transaction where
  version := 2
  inputs := [⟨.coinbase, LittleEndian.encode 4 salt.toNat, 0xffffffff, []⟩]
  outputs := [⟨5000000000, []⟩]
  lockTime := height

def block (parent : BlockHash) (height : Height) (salt : UInt32) (txs : List Transaction) :
    Block where
  header := ⟨1, parent, .zero, 1600000000 + height, 0x207fffff, height + salt * 1000003⟩
  transactions := txs

def genesis : Block := block .zero 0 0 []

def new (network : Network) : Node := ⟨network, [], [], .empty, .empty, [], 0⟩

instance : Inhabited Node := ⟨new .regtest⟩

def chain (n : Node) : List Block := genesis :: n.later

def blockAt? (n : Node) (h : Height) : Option Block := n.chain[h.toNat]?

def tipHeight (n : Node) : Height := n.later.length.toUInt32

def tip (n : Node) : Block := n.later.getLast?.getD genesis

def best (n : Node) : Stamp := ⟨n.tipHeight, n.tip.hash⟩

def stampAt? (n : Node) (h : Height) : Option Stamp := (n.blockAt? h).map fun b => ⟨h, b.hash⟩

/-- A block on the tip, behind a coinbase of its own. -/
def push (n : Node) (txs : List Transaction) : Node :=
  let height := n.tipHeight + 1
  { n with later := n.later ++ [block n.tip.hash height n.salt (coinbase height n.salt :: txs)] }

/-- Mines empty blocks, and returns their stamps. -/
def mine (n : Node) : Nat → Node × List Stamp
  | 0 => (n, [])
  | count + 1 =>
    let n := n.push []
    let (after, stamps) := n.mine count
    (after, n.best :: stamps)

/-- Mines the mempool into one block. -/
def mineMempool (n : Node) : Node := { n with pool := [] }.push n.pool

/-- Leaves the chain `depth` blocks below the tip for another branch, or at the genesis block. -/
def fork (n : Node) (depth : Nat) : Node :=
  { n with later := n.later.take (n.later.length - depth), salt := n.salt + 1 }

/-- Takes `depth` blocks off the tip and mines as many on another branch. -/
def reorganise (n : Node) (depth : Nat) : Node := ((n.fork depth).mine depth).1

/-- The stamp of the last block that this mines, or of the tip if it mines none. -/
def reorganisedTo (n : Node) (depth : Nat) : Stamp :=
  ((n.fork depth).mine depth).2.getLastD (n.fork depth).best

def addTransaction (n : Node) (t : Transaction) : Node := { n with pool := n.pool ++ [t] }

def dropTransaction (n : Node) (id : Txid) : Node × Bool :=
  let pool := n.pool.filter fun t => t.txid ≠ id
  ({ n with pool }, pool.length != n.pool.length)

def setFailing (n : Node) (q : Query) (on : Bool) : Node :=
  { n with failing := if on then n.failing.insert q else n.failing.erase q }

def failTransaction (n : Node) (id : Txid) (on : Bool) : Node :=
  { n with failingTxids := if on then n.failingTxids.insert id else n.failingTxids.erase id }

def askedCount (n : Node) (q : Query) : Nat := n.asked.count q

/-- Notes the query, and answers unless it is to fail. -/
def answer {α : Type} (q : Query) (f : Node → Except Error α) : StateM Node (Except Error α) :=
  fun n =>
    let n := { n with asked := q :: n.asked }
    (if q ∈ n.failing then .error (.queryFailed q.method "mock failure") else f n, n)

def blockAt (n : Node) (h : Height) : Except Error Block :=
  match n.blockAt? h with
  | some b => .ok b
  | none => .error (.queryFailed "getblockhash" "Block height out of range")

def transactionOf (n : Node) (id : Txid) : Except Error Transaction :=
  if id ∈ n.failingTxids then .error (.queryFailed Query.transaction.method "mock failure")
  else
    match n.pool.find? fun t => t.txid = id with
    | some t => .ok t
    | none => .error (.queryFailed Query.transaction.method "No such mempool transaction")

def backend : Backend (StateM Node) where
  network := answer .network fun n => .ok n.network
  best := answer .best fun n => .ok n.best
  block h := answer .block fun n => n.blockAt h
  mempool := answer .mempool fun n => .ok (n.pool.map Transaction.txid)
  transaction id := answer .transaction fun n => n.transactionOf id

/-- The name that a connection shows for its backend. -/
def backendName : String := "mock-backend"

end Node

end ChainFeed
