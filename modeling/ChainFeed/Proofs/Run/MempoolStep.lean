import ChainFeed.Proofs.Mempool.Delta
import ChainFeed.Proofs.Run.BlockStep

/-!
# The transaction poller in a run

What a step has to do with the transaction poller: the listing that it hears, the fetch that is
answered, and the changes of the mempool that it hands out. Few actions reach the poller or the
tracked transactions, and `Connection.mempool_step` names them.
-/

namespace ChainFeed

/-- What an event says of the mempool: the id of a transaction, and whether it has come or gone. -/
def Event.change? : Event → Option (Txid × Bool)
  | .blockConnected _ => none
  | .transactionAdded t => some (t.txid, true)
  | .transactionRemoved id => some (id, false)

/-- The transactions that the tick under way has still to get an answer about. -/
def Hub.pending (h : Hub) : List Txid :=
  match h.txPoller with
  | .fetching id rest _ => id :: rest
  | _ => []

namespace Connection

def changesAt (c : Connection) (a : Action) : List (Txid × Bool) :=
  (c.dispatched a).filterMap Event.change?

/-- The mempool listing that the transaction poller hears in a step. -/
def listingsAt (c : Connection) : Action → List (List Txid)
  | .answerTxPoller source =>
    match c.hub.txPoller, source.mempool with
    | .askingListing, .ok listing => [listing]
    | _, _ => []
  | _ => []

/-- The id of the transaction that the poller gets an answer about in a step, and whether the answer
is the transaction. -/
def fetchesAt (c : Connection) : Action → List (Txid × Bool)
  | .answerTxPoller source =>
    match c.hub.txPoller with
    | .fetching id _ _ => [(id, (source.transaction id).isOk)]
    | _ => []
  | _ => []

end Connection

namespace Hub

variable (h : Hub)

/-- The tick goes on with the ids that are left, or ends. -/
theorem pending_fetchNext (report : TxTick) (ids : List Txid) :
    (h.fetchNext report ids).1.pending = ids ∨ (h.fetchNext report ids).1.pending = [] := by
  cases ids with
  | nil => exact .inl rfl
  | cons id rest =>
    rw [fetchNext]
    split
    · exact .inr rfl
    · exact .inl rfl

@[simp] theorem tracker_fetchNext (report : TxTick) (ids : List Txid) :
    (h.fetchNext report ids).1.tracker = h.tracker := by
  cases ids with
  | nil => rfl
  | cons id rest =>
    rw [fetchNext]
    split <;> rfl

theorem mem_tracker_removals {ids : List Txid} {t : Txid} :
    t ∈ (ids.foldl (fun h id => (h.dispatchRemoval id).1) h).tracker ↔
      t ∈ h.tracker ∧ t ∉ ids := by
  induction ids generalizing h with
  | nil => simp
  | cons id rest ih =>
    have herase : (h.dispatchRemoval id).1.tracker = h.tracker.erase id := rfl
    rw [List.foldl_cons, ih, herase, Distinct.mem_erase, List.mem_cons, not_or]
    exact ⟨fun ⟨⟨hne, ht⟩, hrest⟩ => ⟨ht, hne, hrest⟩, fun ⟨ht, hne, hrest⟩ => ⟨⟨hne, ht⟩, hrest⟩⟩

/-- After a listing those are still tracked that it has. -/
theorem mem_tracker_listingArrived {listing : List Txid} (hask : h.txPoller = .askingListing)
    (t : Txid) : t ∈ (h.listingArrived (.ok listing)).1.tracker ↔ t ∈ h.tracker ∧ t ∈ listing := by
  have hdropped : t ∈ (h.reconcile listing).2.tracker ↔ t ∈ h.tracker ∧ t ∈ listing := by
    refine Distinct.mem_eraseAll.trans ?_
    rw [Delta.mem_removed]
    exact and_congr_right fun ht => by simp [ht]
  simp only [listingArrived, hask]
  split
  · exact hdropped
  · rw [tracker_fetchNext, mem_tracker_removals, hdropped]
    refine and_iff_left_of_imp fun ht => ?_
    exact fun hgone => (Delta.mem_removed.1 hgone).2 ht.2

/-- After a listing those are asked for that are new. -/
theorem pending_listingArrived {listing : List Txid} (hask : h.txPoller = .askingListing) :
    (h.listingArrived (.ok listing)).1.pending = (Delta.between h.tracker listing).added ∨
      (h.listingArrived (.ok listing)).1.pending = [] := by
  simp only [listingArrived, hask]
  split
  · exact .inr rfl
  · exact pending_fetchNext _ _ _

/-- The block poller does not reach the tracked transactions. -/
structure SameMempool (h k : Hub) : Prop where
  tracker : k.tracker = h.tracker
  txPoller : k.txPoller = h.txPoller

namespace SameMempool

variable {h k l : Hub}

theorem refl (h : Hub) : SameMempool h h := ⟨rfl, rfl⟩

theorem trans (hk : SameMempool h k) (hl : SameMempool k l) : SameMempool h l :=
  ⟨hl.tracker.trans hk.tracker, hl.txPoller.trans hk.txPoller⟩

theorem pending (hk : SameMempool h k) : k.pending = h.pending := by
  rw [Hub.pending, hk.txPoller, Hub.pending]

end SameMempool

theorem Frame.sameMempool {h k : Hub} (hk : Frame h k) : SameMempool h k :=
  ⟨hk.tracker, hk.txPoller⟩

theorem sameMempool_dispatchBlock (b : PlacedBlock) : h.SameMempool (h.dispatchBlock b).1 := by
  unfold dispatchBlock advance
  dsimp only
  split <;> exact ⟨rfl, rfl⟩

theorem sameMempool_bestArrived (answer : Except Error Stamp) :
    h.SameMempool (h.bestArrived answer).1 := by
  unfold bestArrived
  split
  · exact ⟨rfl, rfl⟩
  · split
    · split <;> exact ⟨rfl, rfl⟩
    · exact ⟨rfl, rfl⟩
  · exact .refl h

theorem sameMempool_blockArrived (answer : Except Error Block) :
    h.SameMempool (h.blockArrived answer).1 := by
  unfold blockArrived
  split
  · exact ⟨rfl, rfl⟩
  · next next last done block _ =>
    have hblock := h.countPolledBlock.sameMempool_dispatchBlock ⟨next, block⟩
    have hcount : h.SameMempool h.countPolledBlock := ⟨rfl, rfl⟩
    dsimp only
    split
    · exact hcount.trans (hblock.trans ⟨rfl, rfl⟩)
    · exact hcount.trans (hblock.trans ⟨rfl, rfl⟩)
  · exact .refl h

end Hub

namespace Connection

open Hub

variable (c : Connection)

theorem sameMempool_answerBlockPoller (source : Source) :
    c.hub.SameMempool (c.answerBlockPoller source).hub := by
  unfold answerBlockPoller
  cases c.hub.blockPoller with
  | idle => exact .refl _
  | askingBest => exact (sameMempool_bestArrived _ _).trans (frame_recordTick _).sameMempool
  | walking next last done =>
    exact (sameMempool_blockArrived _ _).trans (frame_recordTick _).sameMempool

/-- The ways in which a step can bear on the transaction poller and the tracked transactions. -/
inductive MempoolStep (c : Connection) (a : Action) : Prop where
  | rest (htracker : (c.step a).hub.tracker = c.hub.tracker)
      (hpending : (c.step a).hub.pending = c.hub.pending) (hchanges : c.changesAt a = [])
      (hlistings : c.listingsAt a = []) (hfetches : c.fetchesAt a = [])
  | pushed (e : Event) (ha : a = .push e) (he : e.block? = none)
  | listed (listing : List Txid)
      (hchanges : c.changesAt a =
        (Delta.between c.hub.tracker listing).removed.map fun id => (id, false))
      (htracker : ∀ t, t ∈ (c.step a).hub.tracker ↔ t ∈ c.hub.tracker ∧ t ∈ listing)
      (hpending : (c.step a).hub.pending = (Delta.between c.hub.tracker listing).added ∨
        (c.step a).hub.pending = [])
      (hlistings : c.listingsAt a = [listing]) (hfetches : c.fetchesAt a = [])
  | failed (id : Txid) (rest : List Txid) (hasked : c.hub.pending = id :: rest)
      (htracker : (c.step a).hub.tracker = c.hub.tracker)
      (hpending : (c.step a).hub.pending = rest ∨ (c.step a).hub.pending = [])
      (hchanges : c.changesAt a = []) (hlistings : c.listingsAt a = [])
      (hfetches : c.fetchesAt a = [(id, false)])
  | arrived (id : Txid) (rest : List Txid) (t : Transaction) (source : Source)
      (ha : a = .answerTxPoller source) (ht : source.transaction id = .ok t)
      (hasked : c.hub.pending = id :: rest)
      (htracker : (c.step a).hub.tracker = c.hub.tracker.insert t.txid)
      (hpending : (c.step a).hub.pending = rest ∨ (c.step a).hub.pending = [])
      (hchanges : c.changesAt a = [(t.txid, true)]) (hlistings : c.listingsAt a = [])
      (hfetches : c.fetchesAt a = [(id, true)])

theorem mempool_step_listing (source : Source) (hask : c.hub.txPoller = .askingListing) :
    c.MempoolStep (.answerTxPoller source) := by
  have hpending : c.hub.pending = [] := by rw [pending, hask]
  have hk : (c.step (.answerTxPoller source)).hub =
      recordTick (c.hub.listingArrived source.mempool) := by
    simp only [step, answerTxPoller, hask]
    rfl
  have hfetches : c.fetchesAt (.answerTxPoller source) = [] := by
    simp only [fetchesAt, hask]
  have hframe := frame_recordTick (c.hub.listingArrived source.mempool)
  cases hl : source.mempool with
  | error e =>
    have hend : (c.hub.listingArrived source.mempool).1 = { c.hub with txPoller := .idle } := by
      simp only [listingArrived, hask, hl, endTxTick]
    rw [hend] at hframe
    refine .rest ?_ ?_ ?_ ?_ hfetches
    · rw [hk, hframe.tracker]
    · rw [hk, hframe.sameMempool.pending, hpending]
      rfl
    · simp only [changesAt, dispatched, hask, hl, List.filterMap_nil]
    · simp only [listingsAt, hask, hl]
  | ok listing =>
    refine .listed listing ?_ ?_ ?_ ?_ hfetches
    · simp only [changesAt, dispatched, hask, hl, List.filterMap_map]
      exact congrFun (List.filterMap_eq_map (f := fun id : Txid => (id, false))) _
    · intro t
      rw [hk, hframe.tracker, hl]
      exact c.hub.mem_tracker_listingArrived hask t
    · rw [hk, hframe.sameMempool.pending, hl]
      exact c.hub.pending_listingArrived hask
    · simp only [listingsAt, hask, hl]

theorem mempool_step_fetch (source : Source) {id : Txid} {rest : List Txid} {report : TxTick}
    (hfetch : c.hub.txPoller = .fetching id rest report) :
    c.MempoolStep (.answerTxPoller source) := by
  have hasked : c.hub.pending = id :: rest := by rw [pending, hfetch]
  have hk : (c.step (.answerTxPoller source)).hub =
      recordTick (c.hub.transactionArrived (source.transaction id)) := by
    simp only [step, answerTxPoller, hfetch]
    rfl
  have hframe := frame_recordTick (c.hub.transactionArrived (source.transaction id))
  have hlistings : c.listingsAt (.answerTxPoller source) = [] := by
    simp only [listingsAt, hfetch]
  cases ht : source.transaction id with
  | error e =>
    simp only [ht, transactionArrived, hfetch] at hframe hk
    refine .failed id rest hasked ?_ ?_ ?_ hlistings ?_
    · rw [hk, hframe.tracker, tracker_fetchNext]
      rfl
    · rw [hk, hframe.sameMempool.pending]
      exact pending_fetchNext _ _ _
    · simp only [changesAt, dispatched, hfetch, ht, List.filterMap_nil]
    · simp only [fetchesAt, hfetch, ht]
      rfl
  | ok t =>
    simp only [ht, transactionArrived, hfetch] at hframe hk
    refine .arrived id rest t source rfl ht hasked ?_ ?_ ?_ hlistings ?_
    · rw [hk, hframe.tracker, tracker_fetchNext]
      rfl
    · rw [hk, hframe.sameMempool.pending]
      exact pending_fetchNext _ _ _
    · simp only [changesAt, dispatched, hfetch, ht]
      rfl
    · simp only [fetchesAt, hfetch, ht]
      rfl

theorem mempool_step (a : Action) : c.MempoolStep a := by
  cases a with
  | tickBlocks =>
    have hsame : c.hub.SameMempool (c.step .tickBlocks).hub := by
      simp only [step]
      split
      · simp only [onHub, beginBlockTick]
        split <;> exact ⟨rfl, rfl⟩
      · exact .refl _
    exact .rest hsame.tracker hsame.pending rfl rfl rfl
  | answerBlockPoller source =>
    have hsame := c.sameMempool_answerBlockPoller source
    refine .rest hsame.tracker hsame.pending ?_ rfl rfl
    simp only [changesAt, dispatched]
    split
    · split <;> rfl
    · rfl
  | tickTransactions =>
    have hsame : (c.step .tickTransactions).hub.tracker = c.hub.tracker ∧
        (c.step .tickTransactions).hub.pending = c.hub.pending := by
      simp only [step]
      split
      · simp only [onHub, beginTxTick]
        split
        · next hidle => exact ⟨rfl, by rw [pending, pending, hidle]⟩
        · exact ⟨rfl, rfl⟩
      · exact ⟨rfl, rfl⟩
    exact .rest hsame.1 hsame.2 rfl rfl rfl
  | answerTxPoller source =>
    cases hp : c.hub.txPoller with
    | askingListing => exact c.mempool_step_listing source hp
    | fetching id rest report => exact c.mempool_step_fetch source hp
    | idle =>
      refine .rest ?_ ?_ ?_ ?_ ?_
      · simp only [step, answerTxPoller, hp]
      · simp only [step, answerTxPoller, hp]
      · simp only [changesAt, dispatched, hp, List.filterMap_nil]
      · simp only [listingsAt, hp]
      · simp only [fetchesAt, hp]
  | push e =>
    cases e with
    | blockConnected b =>
      have hsame := c.hub.sameMempool_dispatchBlock b
      exact .rest hsame.tracker hsame.pending rfl rfl rfl
    | transactionAdded t => exact .pushed _ rfl rfl
    | transactionRemoved id => exact .pushed _ rfl rfl
  | _ => exact .rest (c.frame_step rfl).tracker (c.frame_step rfl).sameMempool.pending rfl rfl rfl

end Connection

end ChainFeed
