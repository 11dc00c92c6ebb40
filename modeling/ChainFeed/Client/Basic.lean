import ChainFeed.Error
import ChainFeed.Watch.WatchList

/-!
# Clients

A client follows the chain for one subscriber. Events wait in its inbox, which holds `capacity` of
them, until its handler takes them; what the subscriber is told goes to the end of `sent`. The mirror
holds the mempool transactions that the client has been told of.
-/

namespace ChainFeed

inductive Event where
  | blockConnected (block : PlacedBlock)
  | transactionAdded (tx : Transaction)
  | transactionRemoved (txid : Txid)
  deriving DecidableEq

def Event.kind : Event → String
  | blockConnected _ => "block_connected"
  | transactionAdded _ => "mempool_tx_added"
  | transactionRemoved _ => "mempool_tx_removed"

inductive Notification where
  | clientConnected (best : Stamp)
  /-- Sent only to those who ask for every block. -/
  | blockConnected (stamp : Stamp)
  | filteredBlockConnected (stamp : Stamp) (relevant : List Transaction)
  /-- A relevant transaction, unconfirmed when there is no block. -/
  | relevantTransaction (tx : Transaction) (block : Option Stamp)
  | heightGap (best incoming : Height)
  | caughtUp (start best : Stamp)
  deriving DecidableEq

/-- Blocks are being fetched, lowest first: `next` is asked for, and `target` is the last. The
block that revealed the gap, if one did, is tried again at the end. -/
structure CatchUp where
  start : Stamp
  next : Height
  target : Height
  cause : Option PlacedBlock
  deriving DecidableEq

namespace Client

inductive Phase where
  | fresh
  | running
  | stopped
  deriving DecidableEq

end Client

structure Client where
  id : ClientId
  network : Network
  autoCatchUp : Bool
  capacity : Nat
  watch : WatchList
  best : Stamp
  mirror : Distinct Txid
  wantsBlocks : Bool
  wantsAll : Bool
  registered : Bool
  phase : Client.Phase
  inbox : List Event
  catchUp : Option CatchUp
  /-- A block that the handler took while the subscriber's catch-up was under way. It is handled
  when that is over, even if the client is stopped in between. -/
  held : Option PlacedBlock
  /-- An event that was waiting when the client was stopped. Its handler takes this one or leaves. -/
  last : Option Event
  sent : List Notification
  deriving DecidableEq

namespace Client

/-- A client that starts at `best`. Even an inbox of no size holds one event. Sizes above the limit
of a channel, at which no client can be made, are left out. -/
def new (id : ClientId) (network : Network) (autoCatchUp : Bool) (bufferSize : Nat)
    (best : Stamp) : Client where
  id
  network
  autoCatchUp
  capacity := max 1 bufferSize
  watch := .empty
  best
  mirror := .empty
  wantsBlocks := false
  wantsAll := false
  registered := false
  phase := .fresh
  inbox := []
  catchUp := none
  held := none
  last := none
  sent := []

def isStopped (c : Client) : Bool := c.phase = .stopped

def isStarted (c : Client) : Bool := c.phase = .running

def isBusy (c : Client) : Bool := c.held.isSome || c.catchUp.any fun u => u.cause.isSome

/-- The handler of a stopped client has not come to its end. The stop that took the client down waits
for that. One that overlaps it does not, and returns while the handler is still at work. -/
def isLeaving (c : Client) : Bool := c.isBusy || c.last.isSome

def notify (c : Client) (n : Notification) : Client := { c with sent := c.sent ++ [n] }

def watchScript (c : Client) (s : Script) : Client := { c with watch := c.watch.addScript s }

def watchOutpoints (c : Client) (l : List OutPoint) : Client :=
  { c with watch := c.watch.addOutpoints l }

def wantsTransaction (c : Client) (t : Transaction) : Bool := c.wantsAll || c.watch.hits t

def deliver (c : Client) (e : Event) : Except Error Client :=
  if c.isStopped then .error (.clientRemoved c.id)
  else if c.inbox.length < c.capacity then .ok { c with inbox := c.inbox ++ [e] }
  else .error (.clientLagging c.id)

def start (c : Client) : Except Error (Client × Bool) :=
  match c.phase with
  | .stopped => .error (.clientRemoved c.id)
  | .running => .ok (c, false)
  | .fresh => .ok (({ c with phase := .running }).notify (.clientConnected c.best), true)

/-- The handler ends after the event it is at, and what waits in the inbox is lost. A handler that is
at none may find the next event together with the signal, and take it first. -/
def stop (c : Client) : Client :=
  { c with
    phase := .stopped
    registered := false
    inbox := []
    last := if c.isStarted && !c.isBusy then c.inbox.head? else c.last }

def leave (c : Client) : Client := { c with last := none }

def describe (c : Client) : String :=
  "RescanClient \x7b id: ClientId(" ++ toString c.id ++ "), network: " ++ c.network.title ++
    ", .. \x7d"

end Client

end ChainFeed
