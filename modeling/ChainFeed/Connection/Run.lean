import ChainFeed.Connection.Basic

/-!
# Runs

A run of a connection is a list of actions. Subscribers and the outside, which pushes events, act at
any time; a handler takes one event; a poller begins a tick; and whoever waits for an answer of the
node gets it from a `Source`, the node at that moment. An action that is not possible changes
nothing.
-/

namespace ChainFeed

inductive Action where
  | newClient
  | removeClient (id : ClientId)
  | start
  /-- The clients of `order` are told first, in this order. -/
  | stop (order : List Nat)
  | continueStop
  | watchScript (slot : Nat) (script : Script)
  | watchOutpoints (slot : Nat) (outpoints : List OutPoint)
  | notifyBlocks (slot : Nat)
  | notifyAllMempool (slot : Nat)
  | startClient (slot : Nat)
  | stopClient (slot : Nat)
  | catchUp (slot : Nat)
  /-- A block is handed to the client past its inbox. -/
  | receiveBlock (slot : Nat) (block : PlacedBlock)
  | receiveTransaction (slot : Nat) (tx : Transaction)
  | handle (slot : Nat)
  /-- The handler of a stopped client sees that it is to end. -/
  | leave (slot : Nat)
  | answerClient (slot : Nat) (source : Source)
  | tickBlocks
  | answerBlockPoller (source : Source)
  | tickTransactions
  | answerTxPoller (source : Source)
  | push (event : Event)

namespace Connection

def onHub (c : Connection) (f : Hub → Hub) : Connection := { c with hub := f c.hub }

def onClient (c : Connection) (slot : Nat) (f : Client → Client) : Connection :=
  c.onHub fun h => h.modifyClient slot f

def answerTo (source : Source) (c : Client) : Except Error Block :=
  match c.catchUp with
  | some u => source.block u.next
  | none => .error .connectionStopped

def answerBlockPoller (c : Connection) (source : Source) : Connection :=
  match c.hub.blockPoller with
  | .idle => c
  | .askingBest => c.onHub fun h => recordTick (h.bestArrived source.best)
  | .walking next _ _ => c.onHub fun h => recordTick (h.blockArrived (source.block next))

def answerTxPoller (c : Connection) (source : Source) : Connection :=
  match c.hub.txPoller with
  | .idle => c
  | .askingListing => c.onHub fun h => recordTick (h.listingArrived source.mempool)
  | .fetching id _ _ => c.onHub fun h => recordTick (h.transactionArrived (source.transaction id))

def answerClient (c : Connection) (slot : Nat) (source : Source) : Connection :=
  match c.hub.clients[slot]? with
  | none => c
  | some client => c.onHub fun h => (h.resumeCatchUp slot (answerTo source client)).1

def step (c : Connection) : Action → Connection
  | .newClient => match c.newClient with | .ok (after, _) => after | .error _ => c
  | .removeClient id => (c.removeClient id).1
  | .start => c.start.1
  | .stop order => c.stop order
  | .continueStop => c.continueStop
  | .watchScript slot script => c.onClient slot fun a => a.watchScript script
  | .watchOutpoints slot outpoints => c.onClient slot fun a => a.watchOutpoints outpoints
  | .notifyBlocks slot => c.onClient slot fun a => { a with wantsBlocks := true }
  | .notifyAllMempool slot => c.onClient slot fun a => { a with wantsAll := true }
  | .startClient slot =>
    match c.hub.startClient slot with
    | .ok (hub, _) => { c with hub }
    | .error _ => c
  | .stopClient slot => c.onHub fun h => h.stopClient slot
  | .catchUp slot => c.onHub fun h => h.startCatchUp slot
  | .receiveBlock slot block => c.onClient slot fun a =>
      match a.receiveBlock block with
      | .ok (after, _) => after
      | .error _ => a
  | .receiveTransaction slot tx => c.onClient slot fun a => (a.receiveTransaction tx).1
  | .handle slot => c.onClient slot Client.handle
  | .leave slot => c.onClient slot Client.leave
  | .answerClient slot source => c.answerClient slot source
  | .tickBlocks => if c.isPolling then c.onHub Hub.beginBlockTick else c
  | .answerBlockPoller source => c.answerBlockPoller source
  | .tickTransactions => if c.isPolling then c.onHub Hub.beginTxTick else c
  | .answerTxPoller source => c.answerTxPoller source
  | .push event => c.onHub fun h => (h.dispatch event).1

def run (c : Connection) (actions : List Action) : Connection := actions.foldl step c

@[simp] theorem run_nil (c : Connection) : c.run [] = c := rfl

@[simp] theorem run_cons (c : Connection) (a : Action) (rest : List Action) :
    c.run (a :: rest) = (c.step a).run rest := rfl

theorem run_append (c : Connection) (l r : List Action) : c.run (l ++ r) = (c.run l).run r :=
  List.foldl_append

end Connection

end ChainFeed
