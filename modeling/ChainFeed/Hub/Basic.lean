import ChainFeed.Client.Apply
import ChainFeed.Mempool.Delta
import ChainFeed.Metrics.Basic

/-!
# The hub

The hub holds the clients of a connection and what they share: the watermark, which is the highest
block fanned out so far, the set of mempool transactions fanned out so far, and the metrics.
Clients are addressed by the order in which they were made.
-/

namespace ChainFeed

/-- What the block poller is waiting for. -/
inductive BlockPoller where
  | idle
  | askingBest
  /-- The block at `next` is asked for, and `last` is the end of the walk. -/
  | walking (next last : Height) (done : Nat)
  deriving DecidableEq

/-- What one look at the mempool came to. -/
structure TxTick where
  added : Nat
  removed : Nat
  failed : Nat
  deriving DecidableEq

def TxTick.zero : TxTick := ⟨0, 0, 0⟩

/-- What the transaction poller is waiting for. -/
inductive TxPoller where
  | idle
  | askingListing
  /-- The transaction `txid` is asked for, and `rest` comes after it. -/
  | fetching (txid : Txid) (rest : List Txid) (report : TxTick)
  deriving DecidableEq

structure Hub where
  clients : List Client
  watermark : Stamp
  tracker : Distinct Txid
  metrics : Metrics
  shutdown : Bool
  blockPoller : BlockPoller
  txPoller : TxPoller
  deriving DecidableEq

namespace Hub

def setWatermark (h : Hub) (s : Stamp) : Hub :=
  { h with watermark := s, metrics := { h.metrics with watermarkHeight := s.height.toNat } }

def setTracker (h : Hub) (t : Distinct Txid) : Hub :=
  { h with tracker := t, metrics := { h.metrics with mempoolTracked := t.size } }

def setClients (h : Hub) (l : List Client) : Hub :=
  { h with
    clients := l
    metrics := { h.metrics with clientsRegistered := l.countP Client.registered } }

def new (best : Stamp) : Hub :=
  setWatermark ⟨[], best, .empty, .zero, false, .idle, .idle⟩ best

def advance (h : Hub) (s : Stamp) : Hub := if h.watermark.isBelow s then h.setWatermark s else h

def track (h : Hub) (id : Txid) : Hub := h.setTracker (h.tracker.insert id)

def untrack (h : Hub) (id : Txid) : Hub := h.setTracker (h.tracker.erase id)

/-- Compares a listing with the tracked ids. Those that are gone are dropped here, and those that
are new are left to be tracked when they have been fetched. -/
def reconcile (h : Hub) (listing : List Txid) : Delta × Hub :=
  let delta := Delta.between h.tracker listing
  (delta, h.setTracker (h.tracker.eraseAll delta.removed))

def recordFailure (h : Hub) (e : Error) : Hub := { h with metrics := h.metrics.recordFailure e }

/-- Takes a client out of the fan-out. An id that is not registered changes nothing. -/
def unregister (h : Hub) (id : ClientId) : Hub :=
  h.setClients (h.clients.map fun c => if c.id = id then { c with registered := false } else c)

def unregisterAll (h : Hub) : Hub :=
  h.setClients (h.clients.map fun c => { c with registered := false })

/-- Puts a client into the fan-out, in place of one with the same id. -/
def register (h : Hub) (slot : Nat) : Hub :=
  match h.clients[slot]? with
  | none => h
  | some c =>
    let h := h.unregister c.id
    h.setClients (h.clients.modify slot fun c => { c with registered := true })

def addClient (h : Hub) (c : Client) : Hub := { h with clients := h.clients ++ [c] }

def modifyClient (h : Hub) (slot : Nat) (f : Client → Client) : Hub :=
  { h with clients := h.clients.modify slot f }

def isRegistered (h : Hub) (id : ClientId) : Bool :=
  h.clients.any fun c => c.registered && c.id = id

def registeredIds (h : Hub) : List ClientId := (h.clients.filter Client.registered).map Client.id

def registeredCount (h : Hub) : Nat := h.clients.countP Client.registered

/-- Stops a client and takes its id out of the fan-out. -/
def stopClient (h : Hub) (slot : Nat) : Hub :=
  match h.clients[slot]? with
  | none => h
  | some c => (h.modifyClient slot Client.stop).unregister c.id

def startClient (h : Hub) (slot : Nat) : Except Error (Hub × Bool) :=
  match h.clients[slot]? with
  | none => .ok (h, false)
  | some c => do
    let (after, started) ← c.start
    return (h.modifyClient slot fun _ => after, started)

/-- The subscriber of a client asks for the blocks up to the watermark. Nothing happens while
another catch-up of the client is under way. -/
def startCatchUp (h : Hub) (slot : Nat) : Hub :=
  h.modifyClient slot fun c =>
    if c.catchUp.isSome then c else c.startCatchUp h.watermark.height none

/-- Hands the answer to a client's fetch to the client, and counts a failure. -/
def resumeCatchUp (h : Hub) (slot : Nat) (answer : Except Error Block) : Hub × Option Error :=
  match h.clients[slot]? with
  | none => (h, none)
  | some c =>
    if c.catchUp.isNone then (h, none)
    else
      let (after, error) := c.resumeCatchUp answer
      let h := h.modifyClient slot fun _ => after
      match answer with
      | .error e => (h.recordFailure e, error)
      | .ok _ => (h, error)

end Hub

end ChainFeed
