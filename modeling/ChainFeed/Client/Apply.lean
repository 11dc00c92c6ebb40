import ChainFeed.Client.Basic

/-!
# Applying blocks and mempool events

A block is applied only when it sits directly on the best block: the outputs that it pays become
watched, its transactions leave the mirror, and it is told with the relevant ones. A block further
ahead opens a gap, which is told and, if the client is set to, filled from the node before the block
is tried again. The handler makes one step at a time, on the block that it holds or on the next
event.
-/

namespace ChainFeed.Client

/-- Takes in a block, and returns the relevant transactions. -/
def receiveBlock (c : Client) (b : PlacedBlock) : Except Error (Client × List Transaction) := do
  c.best.requireNext b.height
  let (watch, relevant) := c.watch.filterBlock b.block
  return ({ c with best := b.stamp, watch, mirror := c.mirror.eraseAll b.block.txids }, relevant)

def emitBlock (c : Client) (stamp : Stamp) (relevant : List Transaction) : Client :=
  { c with
    sent := c.sent ++ (if c.wantsBlocks then [.blockConnected stamp] else []) ++
      relevant.map (fun t => .relevantTransaction t (some stamp)) ++
      [.filteredBlockConnected stamp relevant] }

def applyBlock (c : Client) (b : PlacedBlock) : Except Error Client := do
  let (after, relevant) ← c.receiveBlock b
  return after.emitBlock b.stamp relevant

/-- Enters a transaction into the mirror, and says whether it was new there. -/
def receiveTransaction (c : Client) (t : Transaction) : Client × Bool :=
  if t.txid ∈ c.mirror then (c, false)
  else ({ c with mirror := c.mirror.insert t.txid, watch := c.watch.follow t }, true)

def forgetTransaction (c : Client) (id : Txid) : Client × Bool :=
  ({ c with mirror := c.mirror.erase id }, id ∈ c.mirror)

def handleAdded (c : Client) (t : Transaction) : Client :=
  let (after, isNew) := c.receiveTransaction t
  if isNew then after.notify (.relevantTransaction t none) else after

/-- The end of a catch-up that was not broken off. -/
def closeCatchUp (c : Client) (u : CatchUp) : Client :=
  let c := { c with catchUp := none }
  let c := if u.start.height < c.best.height then c.notify (.caughtUp u.start c.best) else c
  match u.cause with
  | none => c
  | some b =>
    match c.applyBlock b with
    | .ok after => after
    | .error _ => c

def startCatchUp (c : Client) (target : Height) (cause : Option PlacedBlock) : Client :=
  let u : CatchUp := ⟨c.best, c.best.height + 1, target, cause⟩
  if c.best.height < target && !c.isStopped then { c with catchUp := some u }
  else c.closeCatchUp u

def advanceCatchUp (c : Client) (u : CatchUp) : Client :=
  if u.next = u.target || c.isStopped then c.closeCatchUp u
  else { c with catchUp := some { u with next := u.next + 1 } }

/-- Takes the answer to the fetch that is under way. An error, given back, breaks the catch-up
off. -/
def resumeCatchUp (c : Client) (answer : Except Error Block) : Client × Option Error :=
  match c.catchUp, answer with
  | none, _ => (c, none)
  | some _, .error e => ({ c with catchUp := none }, some e)
  | some u, .ok block =>
    match c.applyBlock ⟨u.next, block⟩ with
    | .ok after => (after.advanceCatchUp u, none)
    | .error e =>
      if e.isForwardGap then ({ c with catchUp := none }, some e) else (c.advanceCatchUp u, none)

def handleBlock (c : Client) (b : PlacedBlock) : Client :=
  match c.applyBlock b with
  | .ok after => after
  | .error e =>
    if e.isForwardGap then
      let c := c.notify (.heightGap c.best.height b.height)
      if c.autoCatchUp then c.startCatchUp (b.height - 1) (some b) else c
    else c

/-- The handler's work on an event. While a catch-up is under way it keeps a block for later. -/
def handleEvent (c : Client) : Event → Client
  | .blockConnected b => if c.catchUp.isSome then { c with held := some b } else c.handleBlock b
  | .transactionAdded t => c.handleAdded t
  | .transactionRemoved id => (c.forgetTransaction id).1

def canHandle (c : Client) : Bool :=
  match c.held with
  | some _ => c.catchUp.isNone
  | none => !c.isBusy && (c.last.isSome || (c.isStarted && !c.inbox.isEmpty))

def handle (c : Client) : Client :=
  if c.canHandle then
    match c.held, c.last, c.inbox with
    | some b, _, _ => ({ c with held := none }).handleBlock b
    | none, some e, _ => c.leave.handleEvent e
    | none, none, e :: rest => ({ c with inbox := rest }).handleEvent e
    | none, none, [] => c
  else c

end ChainFeed.Client
