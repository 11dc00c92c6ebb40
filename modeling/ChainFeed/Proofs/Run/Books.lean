import ChainFeed.Proofs.Client.Announced
import ChainFeed.Proofs.Metrics.Failures
import ChainFeed.Proofs.Run.Calls
import ChainFeed.Proofs.Run.Mirror
import Mathlib.Algebra.BigOperators.Group.Finset.Basic

/-!
# What the hub books

A hub counts what the pollers have fetched, what has been put into inboxes or refused by full ones,
and what has failed. `Hub.Books` says what the counters have moved by from one hub to another, and
each thing that can happen to a hub has its entry.
-/

namespace ChainFeed

open Client Metrics

def Call.isBlock : Call → Bool
  | .block _ => true
  | _ => false

def Call.isTransaction : Call → Bool
  | .transaction _ => true
  | _ => false

/-- The error of an answer. -/
def failureOf {α : Type} : Except Error α → Option Error
  | .error e => some e
  | .ok _ => none

namespace Hub

/-- How often a client passes a test when some events are handed out in turn. -/
def countTurns (test : Event → Client → Bool) : List Client → List Event → Nat
  | _, [] => 0
  | l, e :: rest => l.countP (test e) + countTurns test (l.map (Client.offer e.concerns e)) rest

/-- Those of some events, handed out in turn, that the client at `slot` passes a test for. -/
def met (test : Event → Client → Bool) (slot : Nat) : List Client → List Event → List Event
  | _, [] => []
  | l, e :: rest => (if l[slot]?.any (test e) then [e] else []) ++
      met test slot (l.map (Client.offer e.concerns e)) rest

section
variable (test : Event → Client → Bool)

theorem countTurns_append (l : List Client) (events later : List Event) :
    countTurns test l (events ++ later) = countTurns test l events +
      countTurns test (l.map fun x => x.offerAll events) later := by
  induction events generalizing l with
  | nil => simp [countTurns, offerAll]
  | cons e rest ih =>
    rw [List.cons_append, countTurns, countTurns, ih, List.map_map, Nat.add_assoc]
    rfl

theorem countP_eq_sum (p : Client → Bool) {n : Nat} {l : List Client} (hn : l.length ≤ n) :
    l.countP p = ∑ slot ∈ Finset.range n, if l[slot]?.any p then 1 else 0 := by
  induction l generalizing n with
  | nil => simp
  | cons x rest ih =>
    obtain ⟨m, rfl⟩ := Nat.exists_eq_add_of_le' (Nat.le_trans (Nat.le_add_left 1 _) hn)
    rw [Finset.sum_range_succ', List.countP_cons, ih (Nat.le_of_succ_le_succ hn)]
    rfl

theorem countTurns_eq_sum {n : Nat} {l : List Client} (hn : l.length ≤ n) (events : List Event) :
    countTurns test l events = ∑ slot ∈ Finset.range n, (met test slot l events).length := by
  induction events generalizing l with
  | nil => simp [countTurns, met]
  | cons e rest ih =>
    have hone (slot : Nat) : (if l[slot]?.any (test e) then [e] else []).length =
        if l[slot]?.any (test e) then 1 else 0 := apply_ite List.length _ _ _
    simp only [countTurns, met, List.length_append, Finset.sum_add_distrib, hone]
    rw [countP_eq_sum (test e) hn, ih (by rwa [List.length_map])]

theorem countP_met (kind : Event → Bool) (slot : Nat) (l : List Client) (events : List Event) :
    (met test slot l events).countP kind =
      (met (fun e x => kind e && test e x) slot l events).length := by
  induction events generalizing l with
  | nil => rfl
  | cons e rest ih =>
    rw [met, met, List.countP_append, ih, List.length_append]
    refine congrArg (· + _) ?_
    cases l[slot]? with
    | none => rfl
    | some x =>
      simp only [Option.any_some]
      cases hk : kind e <;> by_cases ht : test e x = true <;> simp [hk, ht]

end

theorem met_misses (slot : Nat) (l : List Client) (events : List Event) :
    met (fun e => Client.misses e.concerns e) slot l events =
      match l[slot]? with
      | some x => x.missed events
      | none => [] := by
  induction events generalizing l with
  | nil =>
    cases l[slot]? <;> rfl
  | cons e rest ih =>
    rw [met, ih, List.getElem?_map]
    cases l[slot]? <;> rfl

theorem met_takes (slot : Nat) (h : Hub) (events : List Event) :
    met (fun e => Client.takes e.concerns e) slot h.clients events = h.taken slot events := by
  induction events generalizing h with
  | nil => rfl
  | cons e rest ih => rw [taken, ← ih, met, clients_dispatch]

/-- From the one hub to the other, `polled` calls of the pollers have succeeded, `events` have been
handed out and `failures` have come, and this is what the counters have moved by. -/
structure Books (polled : List Call) (events : List Event) (failures : List Error) (h k : Hub) :
    Prop where
  blocksPolled : k.metrics.blocksPolled = h.metrics.blocksPolled + polled.countP Call.isBlock
  transactionsPolled : k.metrics.transactionsPolled =
    h.metrics.transactionsPolled + polled.countP Call.isTransaction
  blockDeliveries : k.metrics.blockDeliveries = h.metrics.blockDeliveries +
    countTurns (fun e x => e.block?.isSome && x.takes e.concerns e) h.clients events
  transactionDeliveries : k.metrics.transactionDeliveries = h.metrics.transactionDeliveries +
    countTurns (fun e x => e.added?.isSome && x.takes e.concerns e) h.clients events
  droppedDeliveries : k.metrics.droppedDeliveries = h.metrics.droppedDeliveries +
    countTurns (fun e x => x.misses e.concerns e) h.clients events
  failures : k.metrics.failures = countAll failures h.metrics.failures

namespace Books

variable {polled polled' : List Call} {events events' : List Event}
  {failures failures' : List Error} {h k l : Hub}

theorem refl (h : Hub) : Books [] [] [] h h := ⟨rfl, rfl, rfl, rfl, rfl, rfl⟩

theorem trans (hk : Books polled events failures h k) (hl : Books polled' events' failures' k l)
    (hclients : k.clients = h.clients.map fun x => x.offerAll events) :
    Books (polled ++ polled') (events ++ events') (failures ++ failures') h l := by
  constructor
  · rw [hl.blocksPolled, hk.blocksPolled, List.countP_append, Nat.add_assoc]
  · rw [hl.transactionsPolled, hk.transactionsPolled, List.countP_append, Nat.add_assoc]
  · rw [hl.blockDeliveries, hk.blockDeliveries, countTurns_append, hclients, Nat.add_assoc]
  · rw [hl.transactionDeliveries, hk.transactionDeliveries, countTurns_append, hclients,
      Nat.add_assoc]
  · rw [hl.droppedDeliveries, hk.droppedDeliveries, countTurns_append, hclients, Nat.add_assoc]
  · rw [hl.failures, hk.failures, countAll, countAll, countAll, List.foldl_append]

/-- Nothing is handed out first. -/
theorem after (hk : Books polled [] failures h k) (hl : Books polled' events failures' k l)
    (hclients : k.clients = h.clients) :
    Books (polled ++ polled') events (failures ++ failures') h l :=
  hk.trans hl (by rw [hclients]; exact (List.map_id' _).symm)

/-- Nothing is handed out afterwards. -/
theorem before (hk : Books polled events failures h k) (hl : Books polled' [] failures' k l) :
    Books (polled ++ polled') events (failures ++ failures') h l := by
  constructor
  · rw [hl.blocksPolled, hk.blocksPolled, List.countP_append, Nat.add_assoc]
  · rw [hl.transactionsPolled, hk.transactionsPolled, List.countP_append, Nat.add_assoc]
  · rw [hl.blockDeliveries, hk.blockDeliveries]; rfl
  · rw [hl.transactionDeliveries, hk.transactionDeliveries]; rfl
  · rw [hl.droppedDeliveries, hk.droppedDeliveries]; rfl
  · rw [hl.failures, hk.failures, countAll, countAll, countAll, List.foldl_append]

theorem advance (h : Hub) (s : Stamp) : Books [] [] [] h (h.advance s) := by
  unfold Hub.advance
  split
  · exact ⟨rfl, rfl, rfl, rfl, rfl, rfl⟩
  · exact refl h

theorem dispatch (h : Hub) (e : Event) : Books [] [e] [] h (h.dispatch e).1 := by
  have hnone (test : Event → Client → Bool) (htest : ∀ x, test e x = false) :
      countTurns test h.clients [e] = 0 := by
    simp [countTurns, htest]
  cases e with
  | blockConnected b =>
    have hfan : Books [] [.blockConnected b] [] h
        { (h.fanOut (fun _ => true) (.blockConnected b)).1 with
          metrics := { (h.fanOut (fun _ => true) (.blockConnected b)).1.metrics with
            blockDeliveries := h.metrics.blockDeliveries +
              (h.reportOf (fun _ => true) (.blockConnected b)).delivered } } := by
      refine ⟨rfl, rfl, rfl, ?_, rfl, rfl⟩
      rw [hnone _ fun _ => rfl]
      rfl
    exact hfan.before (.advance _ b.stamp)
  | transactionAdded t =>
    refine ⟨rfl, rfl, ?_, rfl, rfl, rfl⟩
    rw [hnone _ fun _ => rfl]
    rfl
  | transactionRemoved id =>
    refine ⟨rfl, rfl, ?_, ?_, rfl, rfl⟩
    · rw [hnone _ fun _ => rfl]
      rfl
    · rw [hnone _ fun _ => rfl]
      rfl

theorem removals (h : Hub) (ids : List Txid) :
    Books [] (ids.map .transactionRemoved) [] h
      (ids.foldl (fun h id => (h.dispatchRemoval id).1) h) := by
  induction ids generalizing h with
  | nil => exact refl h
  | cons id rest ih =>
    exact (dispatch h (.transactionRemoved id)).trans (ih _) rfl

theorem recordFailure (h : Hub) (e : Error) : Books [] [] [e] h (h.recordFailure e) :=
  ⟨rfl, rfl, rfl, rfl, rfl, rfl⟩

theorem fetchNext (h : Hub) (report : TxTick) (ids : List Txid) :
    Books [] [] [] h (Connection.recordTick (h.fetchNext report ids)) := by
  cases ids with
  | nil => exact ⟨rfl, rfl, rfl, rfl, rfl, rfl⟩
  | cons id rest =>
    rw [Hub.fetchNext]
    split <;> exact ⟨rfl, rfl, rfl, rfl, rfl, rfl⟩

theorem stopClient (h : Hub) (n : Nat) : Books [] [] [] h (h.stopClient n) := by
  unfold Hub.stopClient
  split <;> exact ⟨rfl, rfl, rfl, rfl, rfl, rfl⟩

theorem register (h : Hub) (n : Nat) : Books [] [] [] h (h.register n) := by
  unfold Hub.register
  split <;> exact ⟨rfl, rfl, rfl, rfl, rfl, rfl⟩

theorem blockTickFailed (h : Hub) (e : Error) :
    Books [] [] [e] h (Connection.recordTick (h.endBlockTick (.error e))) :=
  ⟨rfl, rfl, rfl, rfl, rfl, rfl⟩

theorem txTickFailed (h : Hub) (e : Error) :
    Books [] [] [e] h (Connection.recordTick (h.endTxTick (.error e))) :=
  ⟨rfl, rfl, rfl, rfl, rfl, rfl⟩

theorem bestArrived (h : Hub) (best : Stamp) (hp : h.blockPoller = .askingBest) :
    Books [.best] [] [] h (Connection.recordTick (h.bestArrived (.ok best))) := by
  simp only [Hub.bestArrived, hp]
  split
  · split <;> exact ⟨rfl, rfl, rfl, rfl, rfl, rfl⟩
  · exact ⟨rfl, rfl, rfl, rfl, rfl, rfl⟩

theorem blockArrived (h : Hub) {next last : Height} {done : Nat} (block : Block)
    (hp : h.blockPoller = .walking next last done) :
    Books [.block next] [.blockConnected ⟨next, block⟩] [] h
      (Connection.recordTick (h.blockArrived (.ok block))) := by
  have hcounted : Books [.block next] [] [] h h.countPolledBlock := ⟨rfl, rfl, rfl, rfl, rfl, rfl⟩
  have hout := hcounted.after (dispatch _ (.blockConnected ⟨next, block⟩)) rfl
  simp only [Hub.blockArrived, hp]
  split <;> exact hout.before ⟨rfl, rfl, rfl, rfl, rfl, rfl⟩

theorem listingArrived (h : Hub) (listing : List Txid) (hp : h.txPoller = .askingListing) :
    Books [.mempool] ((Delta.between h.tracker listing).removed.map .transactionRemoved) [] h
      (Connection.recordTick (h.listingArrived (.ok listing))) := by
  have hkept : Books [.mempool] [] [] h (h.reconcile listing).2 := ⟨rfl, rfl, rfl, rfl, rfl, rfl⟩
  simp only [Hub.listingArrived, hp]
  split
  · next hempty =>
    have hboth : (Delta.between h.tracker listing).isEmpty = true := hempty
    simp only [Delta.isEmpty, Bool.and_eq_true, List.isEmpty_iff] at hboth
    rw [hboth.2]
    exact hkept.before ⟨rfl, rfl, rfl, rfl, rfl, rfl⟩
  · have hgone := hkept.after (removals _ (h.reconcile listing).1.removed) rfl
    exact hgone.before (fetchNext _ { TxTick.zero with
      removed := (h.reconcile listing).1.removed.length } (h.reconcile listing).1.added)

theorem transactionArrived (h : Hub) {id : Txid} {rest : List Txid} {report : TxTick}
    (t : Transaction) (hp : h.txPoller = .fetching id rest report) :
    Books [.transaction id] [.transactionAdded t] [] h
      (Connection.recordTick (h.transactionArrived (.ok t))) := by
  have hcounted : Books [.transaction id] [] [] h h.countPolledTransaction :=
    ⟨rfl, rfl, rfl, rfl, rfl, rfl⟩
  have hout := hcounted.after (dispatch _ (.transactionAdded t)) rfl
  simp only [Hub.transactionArrived, hp]
  exact hout.before (fetchNext _ _ rest)

theorem resumeCatchUp (h : Hub) {slot : Nat} {x : Client} {u : CatchUp}
    (hx : h.clients[slot]? = some x) (hu : x.catchUp = some u) (answer : Except Error Block) :
    Books [] [] (failureOf answer).toList h (h.resumeCatchUp slot answer).1 := by
  simp only [Hub.resumeCatchUp, hx, hu, Option.isNone_some, Bool.false_eq_true, if_false]
  cases answer <;> exact ⟨rfl, rfl, rfl, rfl, rfl, rfl⟩

end Books

end Hub

end ChainFeed
