import ChainFeed.Config.Backend
import ChainFeed.Connection.Backend
import ChainFeed.Hub.Polling

/-!
# Connections

A connection is a hub with a configuration and a life: it is made by a handshake with the node,
starts its pollers at most once, and stops for good. Stopping takes every client out of the fan-out,
tells the clients one by one, waiting for a handler that is in the middle of a block, and then the
pollers. Clients are numbered from one in the order in which they are made.
-/

namespace ChainFeed

structure Connection where
  config : BackendConfig
  hub : Hub
  allocated : Nat
  started : Bool
  stopped : Bool
  /-- The clients that a stop has still to tell, and the one whose handler it waits for. -/
  closing : List Nat
  awaited : Option Nat
  deriving DecidableEq

namespace Connection

def opened (config : BackendConfig) (best : Stamp) : Connection :=
  ⟨config, .new best, 0, false, false, [], none⟩

def handshake {m : Type → Type} [Monad m] (config : BackendConfig) (backend : Backend m) :
    m (Except Error Connection) := do
  match config.validate with
  | .error e => return .error e
  | .ok () =>
    match ← backend.network with
    | .error e => return .error (.unreachable e.message)
    | .ok actual =>
      if actual ≠ config.network then return .error (.networkMismatch config.network actual)
      else
        match ← backend.best with
        | .error e => return .error (.unreachable e.message)
        | .ok best => return .ok (opened config best)

def hasBackend (c : Connection) : Bool := !c.stopped

def isPolling (c : Connection) : Bool :=
  c.started && c.config.rpcPolling && !c.hub.shutdown

/-- Makes a client at the watermark and registers it. Buffers that are too large for any channel are
left out: with one of these there would be an id and no client. -/
def newClient (c : Connection) : Except Error (Connection × ClientId) :=
  if c.stopped then .error .connectionStopped
  else
    let id : ClientId := ⟨(c.allocated + 1).toUInt64⟩
    let client := Client.new id c.config.network c.config.autoCatchUp c.config.clientBuffer.toNat
      c.hub.watermark
    let hub := (c.hub.addClient client).register c.hub.clients.length
    .ok ({ c with hub, allocated := c.allocated + 1 }, id)

def removeClient (c : Connection) (id : ClientId) : Connection × Bool :=
  ({ c with hub := c.hub.unregister id }, c.hub.isRegistered id)

def start (c : Connection) : Connection × Bool :=
  if c.stopped || c.started then (c, false) else ({ c with started := true }, true)

/-- Stops clients in turn, up to one whose handler is in the middle of a block. A handler that an
earlier stop of the client waits for is not waited for again. -/
def closeClients (c : Connection) : List Nat → Connection
  | [] => { c with hub := { c.hub with shutdown := true }, closing := [], awaited := none }
  | slot :: rest =>
    let hub := c.hub.stopClient slot
    if c.hub.clients[slot]?.any Client.isStarted && hub.clients[slot]?.any Client.isLeaving then
      { c with hub, closing := rest, awaited := some slot }
    else closeClients { c with hub } rest

/-- The registered clients, those of `order` first. -/
def registeredSlots (c : Connection) (order : List Nat) : List Nat :=
  (order ++ List.range c.hub.clients.length).eraseDups.filter fun slot =>
    c.hub.clients[slot]?.any Client.registered

theorem mem_registeredSlots {c : Connection} {order : List Nat} {slot : Nat} :
    slot ∈ c.registeredSlots order ↔ c.hub.clients[slot]?.any Client.registered = true := by
  rw [registeredSlots, List.mem_filter, List.mem_eraseDups, List.mem_append, List.mem_range]
  refine and_iff_right_of_imp fun hany => .inr ?_
  obtain ⟨x, hx, _⟩ := (Option.any_eq_true _ _).1 hany
  exact (List.getElem?_eq_some_iff.1 hx).1

def stop (c : Connection) (order : List Nat) : Connection :=
  if c.stopped then c
  else
    { c with hub := c.hub.unregisterAll, stopped := true }.closeClients (c.registeredSlots order)

def continueStop (c : Connection) : Connection :=
  match c.awaited with
  | none => c
  | some slot =>
    if c.hub.clients[slot]?.any Client.isLeaving then c else c.closeClients c.closing

def isClosed (c : Connection) : Bool :=
  c.hub.shutdown && c.hub.blockPoller = .idle && c.hub.txPoller = .idle

def recordTick {α : Type} : Hub × Option (Except Error α) → Hub
  | (h, some (.error e)) => h.recordFailure e
  | (h, _) => h

end Connection

end ChainFeed
