import ChainFeed.Simulation.Settling

/-!
# Ticking

A tick of a poller runs to its end before any handler does. By the clock, both pollers tick when
they are started and then once in every interval. Of two ticks at one moment the block poller's is
the first.
-/

namespace ChainFeed.Simulation

/-- Goes on with the block poller's tick for at most so many blocks. -/
def finishBlockTick : Nat → Run (Except Error Nat)
  | 0 => return .ok 0
  | left + 1 => do
    match (← get).hub.blockPoller with
    | .walking next _ _ =>
      let answer ← fetchBlock settle next
      match ← onHub fun h => h.blockArrived answer with
      | some result => return result
      | none => finishBlockTick left
    | _ => return .ok 0

/-- How many blocks the block poller has still to fetch, at most. -/
def blocksLeft (s : Simulation) : Nat :=
  match s.hub.blockPoller with
  | .walking next last _ => last.toNat + 1 - next.toNat
  | _ => 0

def pollBlocks : Run (Except Error Nat) := do
  modifyHub Hub.beginBlockTick
  let best ← askBest
  match ← onHub fun h => h.bestArrived best with
  | some result => return result
  | none => finishBlockTick (← get).blocksLeft

/-- Goes on with the transaction poller's tick for at most so many transactions. -/
def finishTransactionTick : Nat → Run (Except Error TxTick)
  | 0 => return .ok .zero
  | left + 1 => do
    match (← get).hub.txPoller with
    | .fetching id _ _ =>
      let answer ← fetchTransaction settle id
      match ← onHub fun h => h.transactionArrived answer with
      | some result => return result
      | none => finishTransactionTick left
    | _ => return .ok .zero

def transactionsLeft (s : Simulation) : Nat :=
  match s.hub.txPoller with
  | .fetching _ rest _ => rest.length + 1
  | _ => 0

def pollTransactions : Run (Except Error TxTick) := do
  modifyHub Hub.beginTxTick
  let listing ← askNode Node.backend.mempool
  match ← onHub fun h => h.listingArrived listing with
  | some result => return result
  | none => finishTransactionTick (← get).transactionsLeft

/-- Counts the failure that ends a tick of a started poller. -/
def recordResult {α : Type} : Except Error α → Run Unit
  | .ok _ => return
  | .error e => modifyHub fun h => h.recordFailure e

def tickDue : Run Unit := do
  let s ← get
  if s.connection.isPolling && s.clock.blocksDue ≤ s.clock.now then
    recordResult (← pollBlocks)
    modify fun s => { s with clock.blocksDue :=
      s.clock.now + s.connection.config.pollBlockMs.toNat }
  let s ← get
  if s.connection.isPolling && s.clock.transactionsDue ≤ s.clock.now then
    recordResult (← pollTransactions)
    modify fun s => { s with clock.transactionsDue :=
      s.clock.now + s.connection.config.pollTxMs.toNat }

/-- Starts the pollers, which tick at once. -/
def start : Run Bool := do
  let started ← onConnection Connection.start
  if started then
    modify fun s => { s with clock := ⟨s.clock.now, s.clock.now, s.clock.now⟩ }
    tickDue
  return started

/-- Moves the clock to `target` in at most so many ticks. -/
def advanceTo (target : Nat) : Nat → Run Unit
  | 0 => modify fun s => { s with clock.now := target }
  | left + 1 => do
    let s ← get
    let due := min s.clock.blocksDue s.clock.transactionsDue
    if s.connection.isPolling && due ≤ target then
      set { s with clock.now := due }
      tickDue
      settle
      advanceTo target left
    else set { s with clock.now := target }

def advance (ms : Nat) : Run Unit := do
  let s ← get
  advanceTo (s.clock.now + ms) (ms + 1)

def stop : Run Unit := onConnection fun c => (c.stop [], ())

end ChainFeed.Simulation
