import ChainFeed.Proofs.Run.Conservation
import ChainFeed.Proofs.Run.MempoolStep

/-!
# What is asked of the backend

Whoever waits for an answer of the node has asked for it, and a new question shows as a change of
what is waited for. A stopped client asks nothing new. After a shutdown a poller that is idle stays
idle.
-/

namespace ChainFeed

inductive Call where
  | best
  | block (height : Height)
  | mempool
  | transaction (txid : Txid)
  deriving DecidableEq

def BlockPoller.call? : BlockPoller → Option Call
  | .idle => none
  | .askingBest => some .best
  | .walking next _ _ => some (.block next)

def TxPoller.call? : TxPoller → Option Call
  | .idle => none
  | .askingListing => some .mempool
  | .fetching id _ _ => some (.transaction id)

namespace Client

def call? (x : Client) : Option Call := x.catchUp.map fun u => .block u.next

section
variable {c : Client}

theorem catchUp_advanceCatchUp_of_stopped (hs : c.isStopped = true) (u : CatchUp) :
    (c.advanceCatchUp u).catchUp = none := by
  rw [advanceCatchUp_of_last (.inr hs), catchUp_closeCatchUp]

theorem catchUp_handleBlock_of_stopped (hs : c.isStopped = true) (hidle : c.catchUp = none)
    (b : PlacedBlock) : (c.handleBlock b).catchUp = none := by
  obtain ⟨_, h⟩ | ⟨_, h⟩ | ⟨_, _, h⟩ | ⟨_, _, hrunning, _⟩ := handleBlock_cases hidle b
  · rw [h, applied_catchUp, hidle]
  · rw [h, hidle]
  · rw [h]
    exact hidle
  · cases hs.symm.trans hrunning

theorem catchUp_handleEvent_of_stopped (hs : c.isStopped = true) (e : Event) :
    (c.handleEvent e).catchUp = c.catchUp := by
  cases e with
  | blockConnected b =>
    simp only [handleEvent]
    split
    · rfl
    · next hidle =>
      have hnone : c.catchUp = none := by simpa using hidle
      rw [catchUp_handleBlock_of_stopped hs hnone, hnone]
  | transactionAdded t =>
    by_cases ht : t.txid ∈ c.mirror
    · rw [handleEvent, handleAdded_of_mem ht]
    · rw [handleEvent, handleAdded_of_not_mem ht]
      rfl
  | transactionRemoved id => rfl

theorem catchUp_handle_of_stopped (hs : c.isStopped = true) :
    c.handle.catchUp = c.catchUp := by
  obtain h | ⟨b, _, hidle, h⟩ | ⟨e, _, _, _, h⟩ | ⟨e, rest, _, _, _, _, _, h⟩ := c.handle_cases
  · rw [h]
  · rw [h]
    exact (catchUp_handleBlock_of_stopped (c := { c with held := none }) hs hidle b).trans
      hidle.symm
  · rw [h]
    exact catchUp_handleEvent_of_stopped (c := c.leave) hs e
  · rw [h]
    exact catchUp_handleEvent_of_stopped (c := { c with inbox := rest }) hs e

/-- A stopped client goes on waiting for the answer that it waits for, or for none. -/
theorem Move.catchUp_of_stopped {given : Input} {d : Client} (hm : Move given c d)
    (hs : c.isStopped = true) : d.catchUp = c.catchUp ∨ d.catchUp = none := by
  cases hm with
  | start hp => simp [Client.isStopped, hp] at hs
  | handle => exact .inl (catchUp_handle_of_stopped hs)
  | catchUp target =>
    obtain ⟨_, hrunning, _⟩ | h := c.startCatchUp_none_cases target
    · cases hs.symm.trans hrunning
    · rw [h]
      exact .inr rfl
  | resume u answer hu =>
    refine .inr ?_
    cases answer with
    | error e => rw [resumeCatchUp_error hu]
    | ok block =>
      by_cases hp : c.best.Precedes u.next
      · rw [resumeCatchUp_of_precedes hu hp]
        exact catchUp_advanceCatchUp_of_stopped (c := c.applied _) hs u
      · obtain h | h : c.resumeCatchUp (.ok block) = _ ∨ c.resumeCatchUp (.ok block) = _ :=
          resumeCatchUp_of_not_precedes hu hp
        · rw [h]
          exact catchUp_advanceCatchUp_of_stopped hs u
        · rw [h]
  | _ => exact .inl rfl

end

end Client

namespace Connection

open Client Hub

def pollerCallsAt (c : Connection) (a : Action) : List Call :=
  let after := (c.step a).hub
  (if after.blockPoller = c.hub.blockPoller then [] else after.blockPoller.call?.toList) ++
    if after.txPoller = c.hub.txPoller then [] else after.txPoller.call?.toList

/-- What the client at `slot` asks in a step, for its subscriber or for its handler. -/
def clientCallsAt (slot : Nat) (c : Connection) (a : Action) : List Call :=
  match c.hub.clients[slot]?, (c.step a).hub.clients[slot]? with
  | some x, some y => if y.catchUp = x.catchUp then [] else y.call?.toList
  | _, _ => []

section
variable {slot : Nat} {c : Connection}

theorem catchUp_step_of_stopped {a : Action} {x y : Client}
    (hx : c.hub.clients[slot]? = some x) (hy : (c.step a).hub.clients[slot]? = some y)
    (hs : x.isStopped = true) : y.catchUp = x.catchUp ∨ y.catchUp = none := by
  cases clientStep_of_getElem? hx hy with
  | moves _ hm =>
    have hkept : y.isStopped = true ∧ (y.catchUp = x.catchUp ∨ y.catchUp = none) := by
      refine hm.keep (P := fun z => z.isStopped = true ∧
        (z.catchUp = x.catchUp ∨ z.catchUp = none)) ?_ ⟨hs, .inl rfl⟩
      rintro z w hm ⟨hz, hwaits⟩
      refine ⟨hm.isStopped hz, ?_⟩
      obtain h | h := hm.catchUp_of_stopped hz
      · rwa [h]
      · exact .inr h
    exact hkept.2
  | watchScript s => exact .inl rfl
  | watchOutpoints l => exact .inl rfl
  | receiveTransaction t =>
    unfold Client.receiveTransaction
    split <;> exact .inl rfl
  | receiveBlock b =>
    by_cases hp : x.best.Precedes b.height
    · rw [received_of_precedes hp]
      exact .inl rfl
    · rw [received_of_not_precedes hp]
      exact .inl rfl

/-- A stopped client asks nothing new of the backend. -/
theorem clientCalls_of_stopped (actions : List Action) {x : Client}
    (hx : c.hub.clients[slot]? = some x) (hs : x.isStopped = true) :
    c.trace (clientCallsAt slot) actions = [] := by
  induction actions generalizing c x with
  | nil => rfl
  | cons a rest ih =>
    obtain ⟨y, hy, _⟩ := c.step_client slot a hx
    have hnow : c.clientCallsAt slot a = [] := by
      simp only [clientCallsAt, hx, hy]
      obtain h | h := catchUp_step_of_stopped hx hy hs
      · rw [if_pos h]
      · rw [call?, h]
        split <;> rfl
    rw [trace_cons, hnow, ih hy (isStopped_step hx hy hs)]
    rfl

/-- After a shutdown no idle poller is set going again. -/
theorem idle_step (a : Action) (hshutdown : c.hub.shutdown = true)
    (hblocks : c.hub.blockPoller = .idle) (htxs : c.hub.txPoller = .idle) :
    (c.step a).hub.blockPoller = .idle ∧ (c.step a).hub.txPoller = .idle := by
  have hoff : c.isPolling = false := by simp [isPolling, hshutdown]
  cases hfeed : a.isFeed with
  | false =>
    have hframe := c.frame_step hfeed
    exact ⟨hframe.blockPoller.trans hblocks, hframe.txPoller.trans htxs⟩
  | true =>
    cases a with
    | tickBlocks =>
      simp only [step, hoff, Bool.false_eq_true, if_false]
      exact ⟨hblocks, htxs⟩
    | tickTransactions =>
      simp only [step, hoff, Bool.false_eq_true, if_false]
      exact ⟨hblocks, htxs⟩
    | answerBlockPoller source =>
      have hstep : c.step (.answerBlockPoller source) = c := by
        simp only [step, answerBlockPoller, hblocks]
      rw [hstep]
      exact ⟨hblocks, htxs⟩
    | answerTxPoller source =>
      have hstep : c.step (.answerTxPoller source) = c := by
        simp only [step, answerTxPoller, htxs]
      rw [hstep]
      exact ⟨hblocks, htxs⟩
    | push e =>
      cases e with
      | blockConnected b =>
        exact ⟨(blockPoller_advance _ _).trans hblocks,
          (sameMempool_dispatchBlock _ b).txPoller.trans htxs⟩
      | transactionAdded t => exact ⟨hblocks, htxs⟩
      | transactionRemoved id => exact ⟨hblocks, htxs⟩
    | _ => cases hfeed

theorem isClosed_iff : c.isClosed = true ↔
    c.hub.shutdown = true ∧ c.hub.blockPoller = .idle ∧ c.hub.txPoller = .idle := by
  simp only [isClosed, Bool.and_eq_true, decide_eq_true_eq, and_assoc]

theorem isClosed_step (a : Action) (hclosed : c.isClosed = true) :
    (c.step a).isClosed = true := by
  obtain ⟨hshutdown, hblocks, htxs⟩ := isClosed_iff.1 hclosed
  exact isClosed_iff.2 ⟨c.shutdown_step a hshutdown, idle_step a hshutdown hblocks htxs⟩

theorem isClosed_run (actions : List Action) (hclosed : c.isClosed = true) :
    (c.run actions).isClosed = true :=
  keep_run (P := fun d => d.isClosed = true) (fun a hd => isClosed_step a hd) actions hclosed

theorem pollerCalls_of_closed (actions : List Action) (hclosed : c.isClosed = true) :
    c.trace pollerCallsAt actions = [] := by
  induction actions generalizing c with
  | nil => rfl
  | cons a rest ih =>
    obtain ⟨hshutdown, hblocks, htxs⟩ := isClosed_iff.1 hclosed
    obtain ⟨hblocks', htxs'⟩ := idle_step a hshutdown hblocks htxs
    have hnow : c.pollerCallsAt a = [] := by
      simp only [pollerCallsAt, hblocks, htxs, hblocks', htxs']
      rfl
    rw [trace_cons, hnow, ih (isClosed_step a hclosed)]
    rfl

end

end Connection

end ChainFeed
