import ChainFeed.Proofs.Chain.Height
import ChainFeed.Proofs.Run.ClientStep
import ChainFeed.Proofs.Run.Frame

/-!
# The block poller in a run

What a step has to do with the block poller: the block that it hands out, what it hears of the best
block, and the result of the tick that it ends. Few actions reach the poller or the watermark, and
`Connection.block_step` names them.
-/

namespace ChainFeed

/-- The watermark after the block at `s` has been handed out. -/
def Stamp.raisedTo (w s : Stamp) : Stamp := if w.isBelow s then s else w

theorem Stamp.raisedTo_of_precedes {w s : Stamp} (h : w.Precedes s.height) :
    w.raisedTo s = s := by
  have hlt : s.height.toNat = w.height.toNat + 1 := h
  rw [raisedTo, if_pos (Stamp.isBelow_iff.2 (by omega))]

theorem Stamp.height_raisedTo (w s : Stamp) :
    (w.raisedTo s).height.toNat = max w.height.toNat s.height.toNat := by
  rw [raisedTo]
  split
  · next h =>
    have hlt := Stamp.isBelow_iff.1 h
    omega
  · next h =>
    have hlt := mt Stamp.isBelow_iff.2 h
    omega

def Block.blank : Block := ⟨⟨1, .zero, .zero, 0, 0, 0⟩, []⟩

/-- A node that has a block for every height and an empty mempool. -/
def Source.ofChain (best : Stamp) (chain : Height → Block) : Source where
  network := .ok .regtest
  best := .ok best
  block h := .ok (chain h)
  mempool := .ok []
  transaction _ := .error (.queryFailed "getrawtransaction" "No such mempool transaction")

/-- A node at height 8. -/
def Source.sample : Source := .ofChain ⟨8, .zero⟩ fun _ => .blank

/-- A node that cannot be reached. -/
def Source.silent : Source where
  network := .error (.unreachable "timeout")
  best := .error (.queryFailed "getblockchaininfo" "timeout")
  block _ := .error (.queryFailed "getblockhash" "timeout")
  mempool := .error (.queryFailed "getrawmempool" "timeout")
  transaction _ := .error (.queryFailed "getrawtransaction" "timeout")

namespace Connection

/-- What a run gives rise to, step by step. -/
def trace {α : Type} (f : Connection → Action → List α) (c : Connection) : List Action → List α
  | [] => []
  | a :: rest => f c a ++ (c.step a).trace f rest

section
variable {α : Type} (f : Connection → Action → List α) (c : Connection)

@[simp] theorem trace_nil : c.trace f [] = [] := rfl

@[simp] theorem trace_cons (a : Action) (rest : List Action) :
    c.trace f (a :: rest) = f c a ++ (c.step a).trace f rest := rfl

theorem trace_append (l r : List Action) :
    c.trace f (l ++ r) = c.trace f l ++ (c.run l).trace f r := by
  induction l generalizing c with
  | nil => rfl
  | cons a rest ih => rw [List.cons_append, trace_cons, trace_cons, run_cons, ih, List.append_assoc]

end

/-- The blocks that a step hands out. -/
def blocksAt (c : Connection) (a : Action) : List PlacedBlock :=
  (c.dispatched a).filterMap Event.block?

/-- What the node tells the block poller of its best block. -/
def bestsAt (c : Connection) : Action → List Stamp
  | .answerBlockPoller source =>
    match c.hub.blockPoller, source.best with
    | .askingBest, .ok best => [best]
    | _, _ => []
  | _ => []

/-- The result of the tick of the block poller that a step ends. -/
def blockResult (c : Connection) : Action → Option (Except Error Nat)
  | .answerBlockPoller source =>
    match c.hub.blockPoller with
    | .idle => none
    | .askingBest => (c.hub.bestArrived source.best).2
    | .walking next _ _ => (c.hub.blockArrived (source.block next)).2
  | _ => none

/-- The blocks that a run hands out, in order. -/
abbrev blocks (c : Connection) (actions : List Action) : List PlacedBlock :=
  c.trace blocksAt actions

abbrev bests (c : Connection) (actions : List Action) : List Stamp := c.trace bestsAt actions

end Connection

namespace Hub

/-- The watermark and the block poller are as they were, and a shutdown lasts. -/
structure Still (h k : Hub) : Prop where
  watermark : k.watermark = h.watermark
  blockPoller : k.blockPoller = h.blockPoller
  shutdown : h.shutdown = true → k.shutdown = true

namespace Still

variable {h k l : Hub}

theorem of_eq (hw : k.watermark = h.watermark) (hp : k.blockPoller = h.blockPoller)
    (hs : k.shutdown = h.shutdown) : Still h k :=
  ⟨hw, hp, fun h' => hs.trans h'⟩

theorem refl (h : Hub) : Still h h := of_eq rfl rfl rfl

theorem trans (hk : Still h k) (hl : Still k l) : Still h l :=
  ⟨hl.watermark.trans hk.watermark, hl.blockPoller.trans hk.blockPoller,
    fun hs => hl.shutdown (hk.shutdown hs)⟩

end Still

theorem Frame.still {h k : Hub} (hk : Frame h k) : Still h k :=
  ⟨hk.watermark, hk.blockPoller, hk.shutdown⟩

section
variable (h : Hub)

theorem still_removals (ids : List Txid) :
    h.Still (ids.foldl (fun h id => (h.dispatchRemoval id).1) h) := by
  induction ids generalizing h with
  | nil => exact .refl h
  | cons id rest ih =>
    have hone : h.Still (h.dispatchRemoval id).1 := .of_eq rfl rfl rfl
    exact hone.trans (ih _)

theorem still_fetchNext (report : TxTick) (ids : List Txid) :
    h.Still (h.fetchNext report ids).1 := by
  cases ids with
  | nil => exact .of_eq rfl rfl rfl
  | cons id rest =>
    rw [fetchNext]
    split <;> exact .of_eq rfl rfl rfl

theorem still_listingArrived (answer : Except Error (List Txid)) :
    h.Still (h.listingArrived answer).1 := by
  unfold listingArrived
  split
  · exact .of_eq rfl rfl rfl
  · next listing _ =>
    dsimp only
    split
    · exact .of_eq rfl rfl rfl
    · have hdrop : h.Still (h.reconcile listing).2 := .of_eq rfl rfl rfl
      exact hdrop.trans ((still_removals _ _).trans (still_fetchNext ..))
  · exact .refl h

theorem still_transactionArrived (answer : Except Error Transaction) :
    h.Still (h.transactionArrived answer).1 := by
  unfold transactionArrived
  split
  · next e _ =>
    have hfail : h.Still (h.recordFailure e) := .of_eq rfl rfl rfl
    exact hfail.trans (still_fetchNext ..)
  · next t _ =>
    have htell : h.Still (h.countPolledTransaction.dispatchTransaction t).1 := .of_eq rfl rfl rfl
    exact htell.trans (still_fetchNext ..)
  · exact .refl h

theorem still_beginTxTick : h.Still h.beginTxTick := by
  unfold beginTxTick
  split <;> exact .of_eq rfl rfl rfl

end

theorem watermark_advance (h : Hub) (s : Stamp) :
    (h.advance s).watermark = h.watermark.raisedTo s := by
  unfold advance Stamp.raisedTo
  split <;> rfl

theorem blockPoller_advance (h : Hub) (s : Stamp) :
    (h.advance s).blockPoller = h.blockPoller := by
  unfold advance
  split <;> rfl

theorem shutdown_advance (h : Hub) (s : Stamp) : (h.advance s).shutdown = h.shutdown := by
  unfold advance
  split <;> rfl

end Hub

namespace Connection

open Hub

variable (c : Connection)

theorem still_recordTick {α : Type} (r : Hub × Option (Except Error α)) :
    r.1.Still (recordTick r) :=
  (frame_recordTick r).still

theorem still_answerTxPoller (source : Source) :
    c.hub.Still (c.answerTxPoller source).hub := by
  unfold answerTxPoller
  cases c.hub.txPoller with
  | idle => exact .refl _
  | askingListing => exact (still_listingArrived _ _).trans (still_recordTick _)
  | fetching id rest report => exact (still_transactionArrived _ _).trans (still_recordTick _)

theorem mem_blocksAt {a : Action} {b : PlacedBlock} :
    b ∈ c.blocksAt a ↔ .blockConnected b ∈ c.dispatched a := by
  rw [blocksAt, List.mem_filterMap]
  constructor
  · rintro ⟨e, he, hb⟩
    cases e with
    | blockConnected b' =>
      cases hb
      exact he
    | transactionAdded t => cases hb
    | transactionRemoved id => cases hb
  · intro he
    exact ⟨_, he, rfl⟩

/-- No event of the mempool is a block. -/
theorem blocksAt_answerTxPoller (source : Source) :
    c.blocksAt (.answerTxPoller source) = [] := by
  rw [blocksAt, List.filterMap_eq_nil_iff]
  intro e he
  simp only [dispatched] at he
  split at he
  · cases he
  · split at he
    · obtain ⟨id, _, rfl⟩ := List.mem_map.1 he
      rfl
    · cases he
  · split at he
    · rw [List.mem_singleton.1 he]
      rfl
    · cases he

/-- A block that a step hands out has been pushed, or fetched by the poller. -/
theorem source_of_mem_blocksAt {a : Action} {b : PlacedBlock} (hb : b ∈ c.blocksAt a) :
    a = .push (.blockConnected b) ∨
      ∃ source, a = .answerBlockPoller source ∧ source.block b.height = .ok b.block := by
  have he := c.mem_blocksAt.1 hb
  cases a with
  | push e => exact .inl (congrArg Action.push (List.mem_singleton.1 he).symm)
  | answerTxPoller source =>
    rw [blocksAt_answerTxPoller] at hb
    cases hb
  | answerBlockPoller source =>
    simp only [dispatched] at he
    split at he
    · split at he
      · next next _ _ block hblock =>
        cases List.mem_singleton.1 he
        exact .inr ⟨source, rfl, hblock⟩
      · cases he
    · cases he
  | _ => cases he

/-- The ways in which a step can bear on the block poller. -/
inductive BlockStep (c : Connection) (a : Action) : Prop where
  | rest (hstill : c.hub.Still (c.step a).hub) (hblocks : c.blocksAt a = [])
      (hbests : c.bestsAt a = []) (hresult : c.blockResult a = none)
  | pushed (b : PlacedBlock) (ha : a = .push (.blockConnected b))
      (hpoller : (c.step a).hub.blockPoller = c.hub.blockPoller)
  | begun (hidle : c.hub.blockPoller = .idle) (hshutdown : c.hub.shutdown = false)
      (hk : (c.step a).hub = { c.hub with blockPoller := .askingBest })
      (hblocks : c.blocksAt a = []) (hbests : c.bestsAt a = []) (hresult : c.blockResult a = none)
  | refused (e : Error) (hask : c.hub.blockPoller = .askingBest)
      (hk : (c.step a).hub = recordTick (c.hub.endBlockTick (.error e)))
      (hblocks : c.blocksAt a = []) (hbests : c.bestsAt a = [])
      (hresult : c.blockResult a = some (.error e))
  | satisfied (best : Stamp) (hask : c.hub.blockPoller = .askingBest)
      (hle : c.hub.shutdown = false → best.height.toNat ≤ c.hub.watermark.height.toNat)
      (hk : (c.step a).hub = { c.hub with blockPoller := .idle })
      (hblocks : c.blocksAt a = []) (hbests : c.bestsAt a = [best])
      (hresult : c.blockResult a = some (.ok 0))
  | setOut (best : Stamp) (hask : c.hub.blockPoller = .askingBest)
      (hshutdown : c.hub.shutdown = false)
      (hlt : c.hub.watermark.height.toNat < best.height.toNat)
      (hk : (c.step a).hub =
        { c.hub with blockPoller := .walking (c.hub.watermark.height + 1) best.height 0 })
      (hblocks : c.blocksAt a = []) (hbests : c.bestsAt a = [best])
      (hresult : c.blockResult a = none)
  | failed (next last : Height) (done : Nat) (e : Error)
      (hwalk : c.hub.blockPoller = .walking next last done)
      (hk : (c.step a).hub = recordTick (c.hub.endBlockTick (.error e)))
      (hblocks : c.blocksAt a = []) (hbests : c.bestsAt a = [])
      (hresult : c.blockResult a = some (.error e))
  | arrived (next last : Height) (done : Nat) (block : Block)
      (hwalk : c.hub.blockPoller = .walking next last done)
      (hshutdown : (c.step a).hub.shutdown = c.hub.shutdown)
      (hwatermark : (c.step a).hub.watermark = c.hub.watermark.raisedTo ⟨next, block.hash⟩)
      (hblocks : c.blocksAt a = [⟨next, block⟩]) (hbests : c.bestsAt a = [])
      (hend : ((next = last ∨ c.hub.shutdown = true) ∧ (c.step a).hub.blockPoller = .idle ∧
          c.blockResult a = some (.ok (done + 1))) ∨
        (next ≠ last ∧ c.hub.shutdown = false ∧
          (c.step a).hub.blockPoller = .walking (next + 1) last (done + 1) ∧
          c.blockResult a = none))

theorem block_step_best (source : Source) (hask : c.hub.blockPoller = .askingBest) :
    c.BlockStep (.answerBlockPoller source) := by
  have hk : (c.step (.answerBlockPoller source)).hub =
      recordTick (c.hub.bestArrived source.best) := by
    simp only [step, answerBlockPoller, hask]
    rfl
  have hblocks : c.blocksAt (.answerBlockPoller source) = [] := by
    simp only [blocksAt, dispatched, hask, List.filterMap_nil]
  have hresult : c.blockResult (.answerBlockPoller source) =
      (c.hub.bestArrived source.best).2 := by
    simp only [blockResult, hask]
  cases hb : source.best with
  | error e =>
    rw [hb] at hk hresult
    refine .refused e hask ?_ hblocks ?_ ?_
    · simpa only [bestArrived, hask] using hk
    · simp only [bestsAt, hask, hb]
    · simpa only [bestArrived, hask, endBlockTick] using hresult
  | ok best =>
    have hbests : c.bestsAt (.answerBlockPoller source) = [best] := by
      simp only [bestsAt, hask, hb]
    rw [hb] at hk hresult
    by_cases hlt : c.hub.watermark.height.toNat < best.height.toNat
    · have hplan : Walk.plan c.hub.watermark best =
          .forward (c.hub.watermark.height + 1) best.height := Walk.plan_of_lt hlt
      by_cases hs : c.hub.shutdown = true
      · refine .satisfied best hask (fun h => by simp [hs] at h) ?_ hblocks hbests ?_
        · simpa only [bestArrived, hask, hplan, if_pos hs, endBlockTick, recordTick] using hk
        · simpa only [bestArrived, hask, hplan, if_pos hs, endBlockTick] using hresult
      · refine .setOut best hask (by simpa using hs) hlt ?_ hblocks hbests ?_
        · simpa only [bestArrived, hask, hplan, if_neg hs, recordTick] using hk
        · simpa only [bestArrived, hask, hplan, if_neg hs] using hresult
    · have hplan : c.hub.bestArrived (.ok best) = c.hub.endBlockTick (.ok 0) := by
        by_cases heq : best = c.hub.watermark
        · simp only [bestArrived, hask, heq, Walk.plan_self]
        · simp only [bestArrived, hask, Walk.plan_of_le heq (Nat.not_lt.1 hlt)]
      rw [hplan] at hk hresult
      exact .satisfied best hask (fun _ => by omega) hk hblocks hbests hresult

theorem block_step_walk (source : Source) {next last : Height} {done : Nat}
    (hwalk : c.hub.blockPoller = .walking next last done) :
    c.BlockStep (.answerBlockPoller source) := by
  have hk : (c.step (.answerBlockPoller source)).hub =
      recordTick (c.hub.blockArrived (source.block next)) := by
    simp only [step, answerBlockPoller, hwalk]
    rfl
  have hbests : c.bestsAt (.answerBlockPoller source) = [] := by
    simp only [bestsAt, hwalk]
  have hresult : c.blockResult (.answerBlockPoller source) =
      (c.hub.blockArrived (source.block next)).2 := by
    simp only [blockResult, hwalk]
  cases hb : source.block next with
  | error e =>
    rw [hb] at hk hresult
    refine .failed next last done e hwalk ?_ ?_ hbests ?_
    · simpa only [blockArrived, hwalk] using hk
    · simp only [blocksAt, dispatched, hwalk, hb, List.filterMap_nil]
    · simpa only [blockArrived, hwalk, endBlockTick] using hresult
  | ok block =>
    have hblocks : c.blocksAt (.answerBlockPoller source) = [⟨next, block⟩] := by
      simp only [blocksAt, dispatched, hwalk, hb]
      rfl
    rw [hb] at hk hresult
    have hs : (c.hub.countPolledBlock.dispatchBlock ⟨next, block⟩).1.shutdown = c.hub.shutdown :=
      shutdown_advance _ _
    have hw : (c.hub.countPolledBlock.dispatchBlock ⟨next, block⟩).1.watermark =
        c.hub.watermark.raisedTo ⟨next, block.hash⟩ := watermark_advance _ _
    simp only [blockArrived, hwalk, hs] at hk hresult
    by_cases hlast : next = last ∨ c.hub.shutdown = true
    · have hlast' : (decide (next = last) || c.hub.shutdown) = true := by simpa using hlast
      simp only [hlast', if_true] at hk hresult
      refine .arrived next last done block hwalk ?_ ?_ hblocks hbests (.inl ⟨hlast, ?_, hresult⟩)
      · rw [hk]
        exact hs
      · rw [hk]
        exact hw
      · rw [hk]
        rfl
    · have hlast' : ¬ (decide (next = last) || c.hub.shutdown) = true := by simpa using hlast
      simp only [if_neg hlast'] at hk hresult
      refine .arrived next last done block hwalk ?_ ?_ hblocks hbests
        (.inr ⟨fun h => hlast (.inl h), by simpa using fun h => hlast (.inr h), ?_, hresult⟩)
      · rw [hk]
        rfl
      · rw [hk]
        exact hw
      · rw [hk]
        rfl

theorem block_step (a : Action) : c.BlockStep a := by
  cases a with
  | tickBlocks =>
    by_cases hp : c.isPolling = true
    · have hstep : (c.step .tickBlocks).hub = c.hub.beginBlockTick := by
        simp only [step, if_pos hp]
        rfl
      have hs : c.hub.shutdown = false := by
        simp only [isPolling, Bool.and_eq_true, Bool.not_eq_true'] at hp
        exact hp.2
      by_cases hidle : c.hub.blockPoller = .idle
      · exact .begun hidle hs (by rw [hstep, beginBlockTick, hidle]) rfl rfl rfl
      · refine .rest ?_ rfl rfl rfl
        rw [hstep, beginBlockTick]
        split
        · next h => exact absurd h hidle
        · exact .refl _
    · refine .rest ?_ rfl rfl rfl
      simp only [step, if_neg hp]
      exact .refl _
  | answerBlockPoller source =>
    cases hp : c.hub.blockPoller with
    | idle =>
      refine .rest ?_ ?_ ?_ ?_
      · simp only [step, answerBlockPoller, hp]
        exact .refl _
      · simp only [blocksAt, dispatched, hp, List.filterMap_nil]
      · simp only [bestsAt, hp]
      · simp only [blockResult, hp]
    | askingBest => exact c.block_step_best source hp
    | walking next last done => exact c.block_step_walk source hp
  | tickTransactions =>
    refine .rest ?_ rfl rfl rfl
    simp only [step]
    split
    · exact c.hub.still_beginTxTick
    · exact .refl _
  | answerTxPoller source =>
    exact .rest (c.still_answerTxPoller source) (c.blocksAt_answerTxPoller source) rfl rfl
  | push e =>
    cases e with
    | blockConnected b => exact .pushed b rfl (blockPoller_advance _ _)
    | transactionAdded t => exact .rest (.of_eq rfl rfl rfl) rfl rfl rfl
    | transactionRemoved id => exact .rest (.of_eq rfl rfl rfl) rfl rfl rfl
  | _ => exact .rest (c.frame_step rfl).still rfl rfl rfl

/-- A block that a step hands out is offered to every client. -/
theorem clients_of_mem_blocksAt {a : Action} {b : PlacedBlock} (hb : b ∈ c.blocksAt a) :
    (c.step a).hub.clients =
      c.hub.clients.map (Client.offer (fun _ => true) (.blockConnected b)) := by
  have hoffer (h : Hub) : (h.dispatchBlock b).1.clients =
      h.clients.map (Client.offer (fun _ => true) (.blockConnected b)) := clients_advance _ _
  cases a with
  | push e =>
    obtain rfl : .blockConnected b = e := List.mem_singleton.1 (c.mem_blocksAt.1 hb)
    exact hoffer c.hub
  | answerTxPoller source =>
    rw [blocksAt_answerTxPoller] at hb
    cases hb
  | answerBlockPoller source =>
    cases hp : c.hub.blockPoller with
    | walking next last done =>
      cases hs : source.block next with
      | error e =>
        rw [mem_blocksAt] at hb
        simp [dispatched, hp, hs] at hb
      | ok block =>
        obtain rfl : b = ⟨next, block⟩ := by
          rw [mem_blocksAt] at hb
          simpa [dispatched, hp, hs] using hb
        simp only [step, answerBlockPoller, hp, hs, onHub, blockArrived]
        split
        · exact hoffer c.hub.countPolledBlock
        · exact hoffer c.hub.countPolledBlock
    | _ =>
      rw [mem_blocksAt] at hb
      simp [dispatched, hp] at hb
  | _ => cases hb

/-- A step hands out at most one block, and only that moves the watermark. -/
theorem watermark_step (a : Action) :
    (c.blocksAt a = [] ∧ (c.step a).hub.watermark = c.hub.watermark) ∨
      ∃ b, c.blocksAt a = [b] ∧ (c.step a).hub.watermark = c.hub.watermark.raisedTo b.stamp := by
  cases c.block_step a with
  | rest hstill hblocks => exact .inl ⟨hblocks, hstill.watermark⟩
  | pushed b ha =>
    subst ha
    exact .inr ⟨b, rfl, watermark_advance _ _⟩
  | begun _ _ hk hblocks => exact .inl ⟨hblocks, by rw [hk]⟩
  | refused e _ hk hblocks => exact .inl ⟨hblocks, by rw [hk, (still_recordTick _).watermark]; rfl⟩
  | satisfied _ _ _ hk hblocks => exact .inl ⟨hblocks, by rw [hk]⟩
  | setOut _ _ _ _ hk hblocks => exact .inl ⟨hblocks, by rw [hk]⟩
  | failed _ _ _ e _ hk hblocks =>
    exact .inl ⟨hblocks, by rw [hk, (still_recordTick _).watermark]; rfl⟩
  | arrived _ _ _ _ _ _ hwatermark hblocks => exact .inr ⟨_, hblocks, hwatermark⟩

theorem shutdown_step (a : Action) (hs : c.hub.shutdown = true) :
    (c.step a).hub.shutdown = true := by
  cases c.block_step a with
  | rest hstill => exact hstill.shutdown hs
  | pushed b ha =>
    subst ha
    exact (shutdown_advance _ _).trans hs
  | begun _ hs' => simp [hs] at hs'
  | refused e _ hk =>
    rw [hk]
    exact (still_recordTick _).shutdown hs
  | satisfied _ _ _ hk => rw [hk, ← hs]
  | setOut _ _ hs' => simp [hs] at hs'
  | failed _ _ _ e _ hk =>
    rw [hk]
    exact (still_recordTick _).shutdown hs
  | arrived _ _ _ _ _ hs' => rw [hs', hs]

end Connection

end ChainFeed
