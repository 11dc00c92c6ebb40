import ChainFeed.Proofs.Run.Shutdown

/-!
# The part of the hub that the clients share

Pollers, watermark, tracked transactions and the shutdown make up the core of a hub. What is fed to
it changes the core in a way that does not depend on the clients, and nothing else changes it but
the end of a stop.
-/

namespace ChainFeed

namespace Hub

def core (h : Hub) : Hub := { h with clients := [], metrics := .zero }

/-- Two hubs that differ in their clients and counters at most. -/
structure SameCore (h k : Hub) : Prop where
  watermark : h.watermark = k.watermark
  tracker : h.tracker = k.tracker
  shutdown : h.shutdown = k.shutdown
  blockPoller : h.blockPoller = k.blockPoller
  txPoller : h.txPoller = k.txPoller

theorem sameCore_core (h : Hub) : h.SameCore h.core := ⟨rfl, rfl, rfl, rfl, rfl⟩

theorem Frame.sameCore {h k : Hub} (hk : h.Frame k) (hs : k.shutdown = h.shutdown) :
    k.SameCore h :=
  ⟨hk.watermark, hk.tracker, hs, hk.blockPoller, hk.txPoller⟩

namespace SameCore

variable {h k : Hub}

theorem core_eq (hk : h.SameCore k) : h.core = k.core := by
  unfold core
  rw [hk.watermark, hk.tracker, hk.shutdown, hk.blockPoller, hk.txPoller]

theorem advance (hk : h.SameCore k) (s : Stamp) : (h.advance s).SameCore (k.advance s) := by
  unfold Hub.advance
  rw [hk.watermark]
  split
  · exact ⟨rfl, hk.tracker, hk.shutdown, hk.blockPoller, hk.txPoller⟩
  · exact hk

theorem dispatchBlock (hk : h.SameCore k) (b : PlacedBlock) :
    (h.dispatchBlock b).1.SameCore (k.dispatchBlock b).1 := by
  apply advance
  exact ⟨hk.watermark, hk.tracker, hk.shutdown, hk.blockPoller, hk.txPoller⟩

theorem dispatchTransaction (hk : h.SameCore k) (t : Transaction) :
    (h.dispatchTransaction t).1.SameCore (k.dispatchTransaction t).1 :=
  ⟨hk.watermark, congrArg (fun ids => ids.insert t.txid) hk.tracker, hk.shutdown, hk.blockPoller,
    hk.txPoller⟩

theorem dispatchRemoval (hk : h.SameCore k) (id : Txid) :
    (h.dispatchRemoval id).1.SameCore (k.dispatchRemoval id).1 :=
  ⟨hk.watermark, congrArg (fun ids => ids.erase id) hk.tracker, hk.shutdown, hk.blockPoller,
    hk.txPoller⟩

theorem dispatch (hk : h.SameCore k) (e : Event) : (h.dispatch e).1.SameCore (k.dispatch e).1 := by
  cases e with
  | blockConnected b => exact hk.dispatchBlock b
  | transactionAdded t => exact hk.dispatchTransaction t
  | transactionRemoved id => exact hk.dispatchRemoval id

theorem removals (hk : h.SameCore k) (ids : List Txid) :
    (ids.foldl (fun h id => (h.dispatchRemoval id).1) h).SameCore
      (ids.foldl (fun h id => (h.dispatchRemoval id).1) k) := by
  induction ids generalizing h k with
  | nil => exact hk
  | cons id rest ih => exact ih (hk.dispatchRemoval id)

theorem endBlockTick (hk : h.SameCore k) (result : Except Error Nat) :
    (h.endBlockTick result).1.SameCore (k.endBlockTick result).1 :=
  ⟨hk.watermark, hk.tracker, hk.shutdown, rfl, hk.txPoller⟩

theorem endTxTick (hk : h.SameCore k) (result : Except Error TxTick) :
    (h.endTxTick result).1.SameCore (k.endTxTick result).1 :=
  ⟨hk.watermark, hk.tracker, hk.shutdown, hk.blockPoller, rfl⟩

theorem fetchNext (hk : h.SameCore k) (report : TxTick) (ids : List Txid) :
    (h.fetchNext report ids).1.SameCore (k.fetchNext report ids).1 := by
  cases ids with
  | nil => exact hk.endTxTick _
  | cons id rest =>
    rw [Hub.fetchNext, Hub.fetchNext, hk.shutdown]
    split
    · exact hk.endTxTick _
    · exact ⟨hk.watermark, hk.tracker, rfl, hk.blockPoller, rfl⟩

theorem bestArrived (hk : h.SameCore k) (answer : Except Error Stamp) :
    (h.bestArrived answer).1.SameCore (k.bestArrived answer).1 := by
  unfold Hub.bestArrived
  rw [hk.blockPoller, hk.watermark, hk.shutdown]
  split
  · exact hk.endBlockTick _
  · split
    · split
      · exact hk.endBlockTick _
      · exact ⟨rfl, hk.tracker, rfl, rfl, hk.txPoller⟩
    · exact hk.endBlockTick _
  · exact hk

theorem blockArrived (hk : h.SameCore k) (answer : Except Error Block) :
    (h.blockArrived answer).1.SameCore (k.blockArrived answer).1 := by
  unfold Hub.blockArrived
  rw [hk.blockPoller]
  split
  · exact hk.endBlockTick _
  · next next last done block _ =>
    have hcounted : h.countPolledBlock.SameCore k.countPolledBlock :=
      ⟨hk.watermark, hk.tracker, hk.shutdown, hk.blockPoller, hk.txPoller⟩
    have htold := hcounted.dispatchBlock ⟨next, block⟩
    dsimp only
    rw [htold.shutdown]
    split
    · exact htold.endBlockTick _
    · exact ⟨htold.watermark, htold.tracker, rfl, rfl, htold.txPoller⟩
  · exact hk

theorem listingArrived (hk : h.SameCore k) (answer : Except Error (List Txid)) :
    (h.listingArrived answer).1.SameCore (k.listingArrived answer).1 := by
  unfold Hub.listingArrived
  rw [hk.txPoller]
  split
  · exact hk.endTxTick _
  · next listing _ =>
    have hdelta : (h.reconcile listing).1 = (k.reconcile listing).1 :=
      congrArg (fun ids => Delta.between ids listing) hk.tracker
    have hkept : (h.reconcile listing).2.SameCore (k.reconcile listing).2 :=
      ⟨hk.watermark, congrArg (fun ids => ids.eraseAll (Delta.between ids listing).removed)
        hk.tracker, hk.shutdown, hk.blockPoller, hk.txPoller⟩
    dsimp only
    rw [hdelta]
    split
    · exact hkept.endTxTick _
    · exact (hkept.removals _).fetchNext _ _
  · exact hk

theorem transactionArrived (hk : h.SameCore k) (answer : Except Error Transaction) :
    (h.transactionArrived answer).1.SameCore (k.transactionArrived answer).1 := by
  unfold Hub.transactionArrived
  rw [hk.txPoller]
  split
  · next rest report e _ =>
    have hfailed : (h.recordFailure e).SameCore (k.recordFailure e) :=
      ⟨hk.watermark, hk.tracker, hk.shutdown, hk.blockPoller, hk.txPoller⟩
    exact hfailed.fetchNext _ _
  · next t _ =>
    have hcounted : h.countPolledTransaction.SameCore k.countPolledTransaction :=
      ⟨hk.watermark, hk.tracker, hk.shutdown, hk.blockPoller, hk.txPoller⟩
    exact (hcounted.dispatchTransaction t).fetchNext _ _
  · exact hk

theorem recordTick {α : Type} {r q : Hub × Option (Except Error α)} (hk : r.1.SameCore q.1) :
    (Connection.recordTick r).SameCore (Connection.recordTick q) := by
  have hone (p : Hub × Option (Except Error α)) : (Connection.recordTick p).SameCore p.1 := by
    unfold Connection.recordTick
    split <;> exact ⟨rfl, rfl, rfl, rfl, rfl⟩
  exact ⟨(hone r).watermark.trans (hk.watermark.trans (hone q).watermark.symm),
    (hone r).tracker.trans (hk.tracker.trans (hone q).tracker.symm),
    (hone r).shutdown.trans (hk.shutdown.trans (hone q).shutdown.symm),
    (hone r).blockPoller.trans (hk.blockPoller.trans (hone q).blockPoller.symm),
    (hone r).txPoller.trans (hk.txPoller.trans (hone q).txPoller.symm)⟩

end SameCore

end Hub

namespace Connection

open Hub

/-- The two connections poll alike. -/
structure PollsAlike (c d : Connection) : Prop where
  config : c.config = d.config
  started : c.started = d.started
  core : c.hub.SameCore d.hub

namespace PollsAlike

variable {c d : Connection}

theorem isPolling (h : PollsAlike c d) : c.isPolling = d.isPolling := by
  unfold Connection.isPolling
  rw [h.started, h.config, h.core.shutdown]

theorem dispatched (h : PollsAlike c d) (a : Action) : c.dispatched a = d.dispatched a := by
  cases a with
  | answerBlockPoller source =>
    simp only [Connection.dispatched, h.core.blockPoller]
  | answerTxPoller source =>
    simp only [Connection.dispatched, h.core.txPoller, h.core.tracker]
  | _ => rfl

/-- What is fed to two connections that poll alike has the same effect on their cores. -/
theorem step (h : PollsAlike c d) {a : Action} (ha : a.isFeed = true) :
    (c.step a).hub.SameCore (d.step a).hub := by
  have hcore := h.core
  cases a with
  | tickBlocks =>
    simp only [Connection.step, h.isPolling]
    split
    · simp only [onHub, beginBlockTick, hcore.blockPoller]
      split
      · exact ⟨hcore.watermark, hcore.tracker, hcore.shutdown, rfl, hcore.txPoller⟩
      · exact hcore
    · exact hcore
  | tickTransactions =>
    simp only [Connection.step, h.isPolling]
    split
    · simp only [onHub, beginTxTick, hcore.txPoller]
      split
      · exact ⟨hcore.watermark, hcore.tracker, hcore.shutdown, hcore.blockPoller, rfl⟩
      · exact hcore
    · exact hcore
  | answerBlockPoller source =>
    simp only [Connection.step, answerBlockPoller, hcore.blockPoller]
    split
    · exact hcore
    · exact (hcore.bestArrived _).recordTick
    · exact (hcore.blockArrived _).recordTick
  | answerTxPoller source =>
    simp only [Connection.step, answerTxPoller, hcore.txPoller]
    split
    · exact hcore
    · exact (hcore.listingArrived _).recordTick
    · exact (hcore.transactionArrived _).recordTick
  | push e => exact hcore.dispatch e
  | _ => cases ha

end PollsAlike

end Connection

end ChainFeed
