import ChainFeed.Hub.Dispatch
import ChainFeed.Walk

/-!
# Polling

A tick of a poller asks the node one question at a time and goes on with each answer. The block
poller walks from just above the watermark to the node's best block. A failed fetch ends its tick,
and the next tick starts again from the watermark. The transaction poller passes over what it cannot
fetch, and tries it again in the next tick. A shutdown ends a tick before the next fetch.

Each step returns the result of the tick when the tick is over.
-/

namespace ChainFeed.Hub

def endBlockTick (h : Hub) (result : Except Error Nat) : Hub × Option (Except Error Nat) :=
  ({ h with blockPoller := .idle }, some result)

def beginBlockTick (h : Hub) : Hub :=
  match h.blockPoller with
  | .idle => { h with blockPoller := .askingBest }
  | _ => h

def bestArrived (h : Hub) (answer : Except Error Stamp) : Hub × Option (Except Error Nat) :=
  match h.blockPoller, answer with
  | .askingBest, .error e => h.endBlockTick (.error e)
  | .askingBest, .ok best =>
    match Walk.plan h.watermark best with
    | .forward first last =>
      if h.shutdown then h.endBlockTick (.ok 0)
      else ({ h with blockPoller := .walking first last 0 }, none)
    | _ => h.endBlockTick (.ok 0)
  | _, _ => (h, none)

def countPolledBlock (h : Hub) : Hub :=
  { h with metrics := { h.metrics with blocksPolled := h.metrics.blocksPolled + 1 } }

/-- The block that the walk is at arrives. -/
def blockArrived (h : Hub) (answer : Except Error Block) : Hub × Option (Except Error Nat) :=
  match h.blockPoller, answer with
  | .walking _ _ _, .error e => h.endBlockTick (.error e)
  | .walking next last done, .ok block =>
    let h := (h.countPolledBlock.dispatchBlock ⟨next, block⟩).1
    if next = last || h.shutdown then h.endBlockTick (.ok (done + 1))
    else ({ h with blockPoller := .walking (next + 1) last (done + 1) }, none)
  | _, _ => (h, none)

def endTxTick (h : Hub) (result : Except Error TxTick) : Hub × Option (Except Error TxTick) :=
  ({ h with txPoller := .idle }, some result)

def beginTxTick (h : Hub) : Hub :=
  match h.txPoller with
  | .idle => { h with txPoller := .askingListing }
  | _ => h

def fetchNext (h : Hub) (report : TxTick) : List Txid → Hub × Option (Except Error TxTick)
  | [] => h.endTxTick (.ok report)
  | id :: rest =>
    if h.shutdown then h.endTxTick (.ok report)
    else ({ h with txPoller := .fetching id rest report }, none)

/-- The mempool listing arrives. Ids that are gone are told at once. -/
def listingArrived (h : Hub) (answer : Except Error (List Txid)) :
    Hub × Option (Except Error TxTick) :=
  match h.txPoller, answer with
  | .askingListing, .error e => h.endTxTick (.error e)
  | .askingListing, .ok listing =>
    let (delta, h) := h.reconcile listing
    if delta.isEmpty then h.endTxTick (.ok .zero)
    else
      let h := delta.removed.foldl (fun h id => (h.dispatchRemoval id).1) h
      h.fetchNext { TxTick.zero with removed := delta.removed.length } delta.added
  | _, _ => (h, none)

def countPolledTransaction (h : Hub) : Hub :=
  { h with
    metrics := { h.metrics with transactionsPolled := h.metrics.transactionsPolled + 1 } }

/-- The transaction that the tick is at arrives. -/
def transactionArrived (h : Hub) (answer : Except Error Transaction) :
    Hub × Option (Except Error TxTick) :=
  match h.txPoller, answer with
  | .fetching _ rest report, .error e =>
    (h.recordFailure e).fetchNext { report with failed := report.failed + 1 } rest
  | .fetching _ rest report, .ok t =>
    let h := (h.countPolledTransaction.dispatchTransaction t).1
    h.fetchNext { report with added := report.added + 1 } rest
  | _, _ => (h, none)

end ChainFeed.Hub
