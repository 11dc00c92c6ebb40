import ChainFeed.Connection.Run
import ChainFeed.Simulation.Node

/-!
# Simulated connections

A connection, the simulated node that it asks, a clock and the receivers of notifications. A
trigger acts once, just before a certain block or transaction is fetched.
-/

namespace ChainFeed

namespace Simulation

/-- What is about to be fetched. -/
inductive Point where
  | block (height : Height)
  | transaction (id : Txid)
  deriving DecidableEq

inductive Effect where
  /-- The fetch fails, and the node is not asked. -/
  | fail
  | shutdown
  | stopClient (slot : Nat)
  /-- The block is handed to the client past its inbox. -/
  | receive (slot : Nat)
  deriving DecidableEq

structure Trigger where
  point : Point
  effect : Effect
  deriving DecidableEq

/-- Where a subscriber stands with the notifications of a client. -/
inductive Receiver where
  | untaken
  /-- So many have been read. -/
  | reading (count : Nat)
  | dropped
  deriving DecidableEq

structure Clock where
  now : Nat
  blocksDue : Nat
  transactionsDue : Nat
  deriving DecidableEq

end Simulation

structure Simulation where
  node : Node
  /-- What the node's best block is taken for instead of what it is. -/
  claimedBest : Option Stamp
  connection : Connection
  triggers : List Simulation.Trigger
  clock : Simulation.Clock
  /-- One for each client. -/
  receivers : List Simulation.Receiver
  deriving DecidableEq

namespace Simulation

abbrev Run := StateM Simulation

def new (node : Node) (connection : Connection) : Simulation :=
  ⟨node, none, connection, [], ⟨0, 0, 0⟩, []⟩

def hub (s : Simulation) : Hub := s.connection.hub

/-- A hub at the node's best block, whose pollers are ticked by hand. -/
def ofParts (node : Node) : Simulation := new node (.opened .standard node.best)

/-- A connection, or the error of its handshake, and the node after it. -/
def connect (node : Node) (config : BackendConfig) : Except Error Simulation × Node :=
  let (result, node) := Connection.handshake config Node.backend node
  (result.map (new node), node)

def askNode {α : Type} (query : StateM Node α) : Run α := fun s =>
  let (answer, node) := query s.node
  (answer, { s with node })

def onConnection {α : Type} (f : Connection → Connection × α) : Run α := fun s =>
  let (connection, a) := f s.connection
  (a, { s with connection })

def onHub {α : Type} (f : Hub → Hub × α) : Run α :=
  onConnection fun c => let (hub, a) := f c.hub; ({ c with hub }, a)

def modifyHub (f : Hub → Hub) : Run Unit := onHub fun h => (f h, ())

def modifyClient (slot : Nat) (f : Client → Client) : Run Unit :=
  modifyHub fun h => h.modifyClient slot f

/-- The position of the client of this id that was made last. -/
def slotOf? (s : Simulation) (id : ClientId) : Option Nat :=
  (List.range s.hub.clients.length).reverse.find? fun slot =>
    s.hub.clients[slot]?.any fun c => c.id = id

/-- The best block that the pollers are told. The node is asked in any case. -/
def askBest : Run (Except Error Stamp) := do
  let claimed := (← get).claimedBest
  let answer ← askNode Node.backend.best
  return answer.map fun best => claimed.getD best

def setTrigger (t : Trigger) : Run Unit := modify fun s => { s with triggers := s.triggers ++ [t] }

/-- Takes out the first trigger that is set for this point. -/
def takeTrigger (p : Point) : Run (Option Effect) := fun s =>
  match s.triggers.find? fun t => t.point = p with
  | some t => (some t.effect, { s with triggers := s.triggers.erase t })
  | none => (none, s)

def addClient (c : Client) (register : Bool) : Run Unit := fun s =>
  let hub := s.hub.addClient c
  let hub := if register then hub.register s.hub.clients.length else hub
  ((), { s with
    connection := { s.connection with hub }, receivers := s.receivers ++ [.untaken] })

def newClient : Run (Except Error ClientId) := fun s =>
  match s.connection.newClient with
  | .ok (connection, id) =>
    (.ok id, { s with connection, receivers := s.receivers ++ [.untaken] })
  | .error e => (.error e, s)

/-- Takes the receiver of a client, which only the first call gets. -/
def takeReceiver (slot : Nat) : Run Bool := fun s =>
  if s.receivers[slot]? = some .untaken then
    (true, { s with receivers := s.receivers.set slot (.reading 0) })
  else (false, s)

def dropReceiver (slot : Nat) : Run Unit :=
  modify fun s => { s with receivers := s.receivers.set slot .dropped }

/-- What the subscriber of a client has not read yet, if it reads at all. -/
def readNotifications (slot : Nat) : Run (Option (List Notification)) := fun s =>
  match s.receivers[slot]?, s.hub.clients[slot]? with
  | some (.reading count), some c =>
    (some (c.sent.drop count),
      { s with receivers := s.receivers.set slot (.reading c.sent.length) })
  | _, _ => (none, s)

end Simulation

end ChainFeed
