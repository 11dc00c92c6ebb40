import ChainFeed.Simulation.Basic

/-!
# Settling

Handlers run one at a time until none of them can take an event. A handler that finds a gap fetches
the missing blocks before it goes on, and a fetch may set off a trigger. The trigger that stops a
client lets the other handlers settle first; since it has then been spent, settling within settling
goes no deeper than there are triggers.
-/

namespace ChainFeed.Simulation

/-- Carries out a trigger. `settle` runs the handlers that are not in the middle of an event. -/
def carryOut (settle : Run Unit) (p : Point) : Effect → Run Unit
  | .fail => return
  | .shutdown => modifyHub fun h => { h with shutdown := true }
  | .stopClient slot => do
    settle
    modifyHub fun h => h.stopClient slot
  | .receive slot => do
    match p with
    | .transaction _ => return
    | .block height =>
      match ← askNode (Node.backend.block height) with
      | .error _ => return
      | .ok block =>
        modifyClient slot fun c =>
          match c.receiveBlock ⟨height, block⟩ with
          | .ok (after, _) => after
          | .error _ => c

/-- Asks the node, after a trigger that is set for this point. -/
def fetch {α : Type} (settle : Run Unit) (p : Point) (query : StateM Node (Except Error α)) :
    Run (Except Error α) := do
  match ← takeTrigger p with
  | none => askNode query
  | some .fail => return .error (.queryFailed "getblock" "hook failure")
  | some effect => do
    carryOut settle p effect
    askNode query

def fetchBlock (settle : Run Unit) (height : Height) : Run (Except Error Block) :=
  fetch settle (.block height) (Node.backend.block height)

def fetchTransaction (settle : Run Unit) (id : Txid) : Run (Except Error Transaction) :=
  fetch settle (.transaction id) (Node.backend.transaction id)

def pendingCatchUp? (s : Simulation) (slot : Nat) : Option CatchUp :=
  s.hub.clients[slot]?.bind Client.catchUp

def catchUpLeft (s : Simulation) (slot : Nat) : Nat :=
  match s.pendingCatchUp? slot with
  | some u => u.target.toNat + 1 - u.next.toNat
  | none => 0

/-- Fetches at most so many blocks for the catch-up that is under way. The error is the one that
broke it off. -/
def finishCatchUp (settle : Run Unit) (slot : Nat) : Nat → Run (Option Error)
  | 0 => return none
  | left + 1 => do
    match (← get).pendingCatchUp? slot with
    | none => return none
    | some u =>
      let answer ← fetchBlock settle u.next
      match ← onHub fun h => h.resumeCatchUp slot answer with
      | some e => return some e
      | none => finishCatchUp settle slot left

/-- Lets the handler of a client make at most so many steps. -/
def runHandler (settle : Run Unit) (slot : Nat) : Nat → Run Unit
  | 0 => return
  | left + 1 => do
    if (← get).hub.clients[slot]?.any Client.canHandle then
      modifyClient slot Client.handle
      let _ ← finishCatchUp settle slot ((← get).catchUpLeft slot)
      runHandler settle slot left

def inboxLength (s : Simulation) (slot : Nat) : Nat :=
  match s.hub.clients[slot]? with
  | some c => c.inbox.length
  | none => 0

/-- Lets each handler in turn empty its inbox. -/
def runHandlers (settle : Run Unit) : List Nat → Run Unit
  | [] => return
  | slot :: rest => do
    runHandler settle slot ((← get).inboxLength slot + 1)
    runHandlers settle rest

def settleWithin : Nat → Run Unit
  | 0 => return
  | depth + 1 => do
    runHandlers (settleWithin depth) (List.range (← get).hub.clients.length)
    onConnection fun c => (c.continueStop, ())

def settle : Run Unit := do settleWithin ((← get).triggers.length + 1)

/-- The subscriber of a client asks for the missing blocks, and gets the client's best block. -/
def catchUp (slot : Nat) : Run (Except Error Stamp) := do
  modifyHub fun h => h.startCatchUp slot
  match ← finishCatchUp settle slot ((← get).catchUpLeft slot) with
  | some e => return .error e
  | none =>
    match (← get).hub.clients[slot]? with
    | some c => return .ok c.best
    | none => return .error .connectionStopped

end ChainFeed.Simulation
