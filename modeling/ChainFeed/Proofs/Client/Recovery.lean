import ChainFeed.Proofs.Client.Stream
import Mathlib.Logic.Function.Iterate

/-!
# Recovery from missed blocks

A client that fills its gaps from a node ends up as if it had been handed every block of the node's
chain in order. `outcome` leaves out what is under way and what is told only because of a gap. At
every moment the outcome is that of the client in order after some number of blocks, and that number
ends at the greatest height that the client was handed.
-/

namespace ChainFeed

/-- What a client tells only because it has missed blocks. -/
def Notification.isRecovery : Notification → Bool
  | heightGap _ _ | caughtUp _ _ => true
  | _ => false

namespace Client

def outcome (c : Client) : Client :=
  { c with inbox := [], catchUp := none, sent := c.sent.filter fun n => !n.isRecovery }

def follow (chain : Height → Block) (c : Client) : Client :=
  c.applied ⟨c.best.height + 1, chain (c.best.height + 1)⟩

/-- The blocks that the client is still to handle, first the one that revealed a gap. -/
def pending (c : Client) : List PlacedBlock :=
  (c.catchUp.bind CatchUp.cause).toList ++ c.inbox.filterMap Event.block?

/-- How many fetches and events are left at most: no gap has more heights than there are words. -/
def workLeft (c : Client) : Nat :=
  c.inbox.length * UInt32.size + match c.catchUp with
    | some u => u.target.toNat + 1 - u.next.toNat
    | none => 0

/-- Nothing waits and nothing is under way. -/
def IsAtRest (c : Client) : Prop := c.inbox = [] ∧ c.catchUp = none

theorem blockNotes_filter (c : Client) (b : PlacedBlock) :
    (c.blockNotes b).filter (fun n => !n.isRecovery) = c.blockNotes b := by
  rw [List.filter_eq_self]
  intro n hn
  simp only [blockNotes, List.mem_append, List.mem_map, List.mem_singleton] at hn
  obtain (h | ⟨t, _, rfl⟩) | rfl := hn
  · split at h
    · rw [List.mem_singleton.1 h]
      rfl
    · cases h
  · rfl
  · rfl

theorem outcome_applied (c : Client) (b : PlacedBlock) :
    (c.applied b).outcome = c.outcome.applied b := by
  have hsent : (c.applied b).sent.filter (fun n => !n.isRecovery) =
      (c.outcome.applied b).sent := by
    rw [applied_sent, applied_sent, List.filter_append, blockNotes_filter]
    rfl
  rw [outcome, hsent]
  rfl

theorem outcome_notify (c : Client) {n : Notification} (hn : n.isRecovery = true) :
    (c.notify n).outcome = c.outcome := by
  have hsent : (c.notify n).sent.filter (fun n => !n.isRecovery) =
      c.sent.filter (fun n => !n.isRecovery) := by
    rw [notify, List.filter_append, List.filter_cons_of_neg (by simp [hn]), List.filter_nil,
      List.append_nil]
  rw [outcome, hsent]
  rfl

theorem outcome_settled (c : Client) (u : CatchUp) : (c.settled u).outcome = c.outcome := by
  unfold settled
  split
  · exact outcome_notify _ rfl
  · rfl

/-- The next block of the chain is the one that `follow` applies. -/
theorem outcome_applied_eq_follow {chain : Height → Block} {c : Client} {b : PlacedBlock}
    (hp : c.best.Precedes b.height) (hb : b.block = chain b.height) :
    (c.applied b).outcome = follow chain c.outcome := by
  have hnext : b.height.toNat = c.best.height.toNat + 1 := hp
  have hheight : b.height = c.best.height + 1 :=
    UInt32.toNat_inj.1 (hnext.trans (Height.toNat_add_one (t := b.height) (by omega)).symm)
  have hplaced : b = ⟨c.best.height + 1, chain (c.best.height + 1)⟩ := by
    rw [← hheight, ← hb]
  rw [outcome_applied, follow]
  exact congrArg c.outcome.applied hplaced

/-- Of the blocks of a chain up to height `n`, that at `n` is the best or among those `left`. -/
structure Covers (chain : Height → Block) (n : Height) (best : Stamp) (left : List PlacedBlock) :
    Prop where
  best_le : best.height.toNat ≤ n.toNat
  block : ∀ b ∈ left, b.block = chain b.height
  height_le : ∀ b ∈ left, b.height.toNat ≤ n.toNat
  reaches : best.height = n ∨ ∃ b ∈ left, b.height = n

namespace Covers

variable {chain : Height → Block} {n : Height} {best : Stamp} {b : PlacedBlock}
  {rest : List PlacedBlock}

theorem applied (h : Covers chain n best (b :: rest)) (hp : best.Precedes b.height) :
    Covers chain n b.stamp rest := by
  have hb := h.height_le b List.mem_cons_self
  have hnext : b.height.toNat = best.height.toNat + 1 := hp
  refine ⟨hb, fun a ha => h.block a (List.mem_cons_of_mem _ ha),
    fun a ha => h.height_le a (List.mem_cons_of_mem _ ha), ?_⟩
  obtain rfl | ⟨a, ha, han⟩ := h.reaches
  · omega
  · obtain rfl | ha := List.mem_cons.1 ha
    · exact .inl han
    · exact .inr ⟨a, ha, han⟩

theorem stale (h : Covers chain n best (b :: rest)) (hle : b.height.toNat ≤ best.height.toNat) :
    Covers chain n best rest := by
  refine ⟨h.best_le, fun a ha => h.block a (List.mem_cons_of_mem _ ha),
    fun a ha => h.height_le a (List.mem_cons_of_mem _ ha), ?_⟩
  obtain hn | ⟨a, ha, han⟩ := h.reaches
  · exact .inl hn
  · obtain rfl | ha := List.mem_cons.1 ha
    · have hbest := h.best_le
      exact .inl (UInt32.toNat_inj.1 (by rw [← han] at hbest ⊢; omega))
    · exact .inr ⟨a, ha, han⟩

/-- Below a block that is left, the next one of the chain may be fetched. -/
theorem fetched (h : Covers chain n best (b :: rest)) {s : Stamp} (hp : best.Precedes s.height)
    (hlt : s.height.toNat < b.height.toNat) : Covers chain n s (b :: rest) := by
  have hb := h.height_le b List.mem_cons_self
  have hnext : s.height.toNat = best.height.toNat + 1 := hp
  refine ⟨by omega, h.block, h.height_le, ?_⟩
  obtain rfl | hleft := h.reaches
  · omega
  · exact .inr hleft

end Covers

/-- What has been told of to get from `x` to `y` is some blocks of `chain` in order. -/
def Follows (chain : Height → Block) (x y : Client) : Prop :=
  ∃ k, y.outcome = (follow chain)^[k] x.outcome ∧
    y.best.height.toNat = x.best.height.toNat + k

/-- A client on its way from `x` to the block of `chain` at height `n`. -/
structure Recovering (chain : Height → Block) (n : Height) (x y : Client) : Prop where
  phase : y.phase = .running
  auto : y.autoCatchUp = true
  held : y.held = none
  last : y.last = none
  follows : Follows chain x y
  fits : ∀ u, y.catchUp = some u → u.Fits y.best ∧ u.cause.isSome = true
  inbox : ∀ e ∈ y.inbox, ∃ b, e = .blockConnected b
  covers : Covers chain n y.best y.pending

section
variable {chain : Height → Block} {n : Height} {x y : Client} {b : PlacedBlock}

theorem Follows.applied (h : Follows chain x y) (hp : y.best.Precedes b.height)
    (hb : b.block = chain b.height) : Follows chain x (y.applied b) := by
  obtain ⟨k, hk, hbest⟩ := h
  have hnext : b.height.toNat = y.best.height.toNat + 1 := hp
  refine ⟨k + 1, ?_, ?_⟩
  · rw [Function.iterate_succ_apply', ← hk, outcome_applied_eq_follow hp hb]
  · rw [applied_best]
    change b.height.toNat = _
    omega

theorem handle_of_idle {e : Event} {rest : List Event} (hphase : y.phase = .running)
    (hheld : y.held = none) (hlast : y.last = none) (hidle : y.catchUp = none)
    (hin : y.inbox = e :: rest) : y.handle = ({ y with inbox := rest }).handleEvent e := by
  have hcan : y.canHandle = true := by
    simp [canHandle, hheld, hlast, isBusy, hidle, isStarted, hphase, hin]
  rw [handle, if_pos hcan, hheld, hlast, hin]

/-- A handler in the middle of a block waits for the node. -/
theorem handle_of_isBusy (hheld : y.held = none) (hbusy : y.isBusy = true) : y.handle = y := by
  have hcan : ¬ y.canHandle = true := by simp [canHandle, hheld, hbusy]
  rw [handle, if_neg hcan]

namespace Recovering

section
variable (hphase : y.phase = .running) (hauto : y.autoCatchUp = true) (hheld : y.held = none)
  (hlast : y.last = none) (hinbox : ∀ e ∈ y.inbox, ∃ b, e = .blockConnected b)
include hphase hauto hheld hlast hinbox

theorem of_idle (hfollows : Follows chain x y) (hidle : y.catchUp = none)
    (hcovers : Covers chain n y.best (y.inbox.filterMap Event.block?)) :
    Recovering chain n x y :=
  ⟨hphase, hauto, hheld, hlast, hfollows, by simp [hidle], hinbox, by simpa [pending, hidle]⟩

/-- Where a block reveals a gap, those below it are fetched first. -/
theorem of_gap (hfollows : Follows chain x y)
    (hcovers : Covers chain n y.best (b :: y.inbox.filterMap Event.block?))
    (hgap : y.best.height.toNat + 1 < b.height.toNat) :
    Recovering chain n x { y.notify (.heightGap y.best.height b.height) with
      catchUp := some ⟨y.best, y.best.height + 1, b.height - 1, some b⟩ } := by
  have htarget : (b.height - 1).toNat = b.height.toNat - 1 := Height.toNat_sub_one (by omega)
  have hnext : (y.best.height + 1).toNat = y.best.height.toNat + 1 :=
    Height.toNat_add_one (t := b.height) (by omega)
  refine ⟨hphase, hauto, hheld, hlast, ?_, ?_, hinbox, hcovers⟩
  · obtain ⟨k, hk, hbest⟩ := hfollows
    refine ⟨k, ?_, hbest⟩
    rw [← hk]
    exact outcome_notify y rfl
  · rintro _ ⟨⟩
    exact ⟨⟨hnext, by dsimp only; omega, by rintro _ ⟨⟩; dsimp only; omega⟩, rfl⟩

/-- When all below it have been applied, the block that revealed the gap is the next one. -/
theorem of_closeCatchUp {u : CatchUp} (hfollows : Follows chain x y)
    (hcovers : Covers chain n y.best (b :: y.inbox.filterMap Event.block?))
    (hcause : u.cause = some b) (hp : y.best.Precedes b.height) :
    Recovering chain n x (y.closeCatchUp u) ∧ (y.closeCatchUp u).catchUp = none := by
  obtain ⟨b', hb', _, hc⟩ | ⟨hnot, _⟩ := y.closeCatchUp_cases u
  · obtain rfl : b = b' := Option.some.inj (hcause.symm.trans hb')
    have hp' : (y.settled u).best.Precedes b.height := by rwa [settled_best]
    have hidle : ((y.settled u).applied b).catchUp = none := by
      rw [applied_catchUp, settled_catchUp]
    rw [hc]
    refine ⟨.of_idle ?_ ?_ ?_ ?_ ?_ ?_ hidle ?_, hidle⟩
    · rw [applied_phase, settled_phase, hphase]
    · rw [applied_autoCatchUp, settled_autoCatchUp, hauto]
    · rw [applied_held, settled_held, hheld]
    · rw [applied_last, settled_last, hlast]
    · rwa [applied_inbox, settled_inbox]
    · have hsettled : Follows chain x (y.settled u) := by
        rwa [Follows, outcome_settled, settled_best]
      exact hsettled.applied hp' (hcovers.block b List.mem_cons_self)
    · rw [applied_inbox, settled_inbox, applied_best]
      exact hcovers.applied hp
  · exact absurd hp (hnot b hcause)

end

/-- The handler takes an event out of the inbox. -/
theorem handle (h : Recovering chain n x y) (hidle : y.catchUp = none) {e : Event}
    {rest : List Event} (hin : y.inbox = e :: rest) :
    Recovering chain n x y.handle ∧ y.handle.workLeft < y.workLeft := by
  obtain ⟨b, rfl⟩ := h.inbox e (by simp [hin])
  have hcovers : Covers chain n y.best (b :: rest.filterMap Event.block?) := by
    have := h.covers
    rwa [pending, hidle, hin] at this
  have hrest : ∀ e ∈ rest, ∃ b, e = .blockConnected b :=
    fun e he => h.inbox e (by simp [hin, he])
  have hblock : b.block = chain b.height := hcovers.block b List.mem_cons_self
  have hstep : y.handle = ({ y with inbox := rest }).handleBlock b := by
    rw [handle_of_idle h.phase h.held h.last hidle hin]
    simp only [handleEvent, hidle, Option.isSome_none, Bool.false_eq_true, if_false]
  have hless (fetches : Nat) (hf : fetches < UInt32.size) :
      rest.length * UInt32.size + fetches < y.workLeft := by
    rw [workLeft, hin, hidle, List.length_cons, Nat.add_zero, Nat.add_mul, Nat.one_mul]
    exact Nat.add_lt_add_left hf _
  obtain ⟨hp, hc⟩ | ⟨hle, hc⟩ | ⟨_, hstop, _⟩ | ⟨hgap, _, _, hc⟩ :=
    handleBlock_cases (c := { y with inbox := rest }) hidle b
  · rw [hstep, hc]
    refine ⟨.of_idle h.phase h.auto h.held h.last hrest ?_ hidle (hcovers.applied hp), ?_⟩
    · exact Follows.applied (y := { y with inbox := rest }) h.follows hp hblock
    · rw [workLeft, applied_inbox, applied_catchUp, hidle]
      exact hless 0 (by decide)
  · rw [hstep, hc]
    refine ⟨.of_idle h.phase h.auto h.held h.last hrest h.follows hidle (hcovers.stale hle), ?_⟩
    rw [workLeft, hidle]
    exact hless 0 (by decide)
  · have hs : y.isStopped = true := hstop h.auto
    simp [isStopped, h.phase] at hs
  · rw [hstep, hc]
    refine ⟨.of_gap (y := { y with inbox := rest }) h.phase h.auto h.held h.last hrest h.follows
      hcovers hgap, ?_⟩
    have hsize : b.height.toNat < UInt32.size := b.height.toNat_lt
    have htarget : (b.height - 1).toNat = b.height.toNat - 1 := Height.toNat_sub_one (by omega)
    have hnext := Height.toNat_add_one (h := y.best.height) (t := b.height)
      (by dsimp only at hgap; omega)
    rw [workLeft]
    exact hless _ (by dsimp only; omega)

/-- The block that the client waits for arrives. -/
theorem resume (h : Recovering chain n x y) {u : CatchUp} (hu : y.catchUp = some u) :
    Recovering chain n x (y.resumeCatchUp (.ok (chain u.next))).1 ∧
      (y.resumeCatchUp (.ok (chain u.next))).1.workLeft < y.workLeft := by
  obtain ⟨hfits, hcause⟩ := h.fits u hu
  obtain ⟨b, hb⟩ := Option.isSome_iff_exists.1 hcause
  have hheight := hfits.cause b hb
  have hle := hfits.next_le_target
  have hcovers : Covers chain n y.best (b :: y.inbox.filterMap Event.block?) := by
    have := h.covers
    rwa [pending, hu, Option.bind_some, hb] at this
  have hfetched : Covers chain n ⟨u.next, (chain u.next).hash⟩
      (b :: y.inbox.filterMap Event.block?) := hcovers.fetched hfits.next (by dsimp only; omega)
  have hfollows := h.follows.applied (b := ⟨u.next, chain u.next⟩) hfits.next rfl
  have hless (fetches : Nat) (hf : fetches < u.target.toNat + 1 - u.next.toNat) :
      y.inbox.length * UInt32.size + fetches < y.workLeft := by
    rw [workLeft, hu]
    exact Nat.add_lt_add_left hf _
  rw [resumeCatchUp_of_precedes hu hfits.next]
  -- The last block below the gap is followed by the one that revealed it.
  by_cases hlast : u.next = u.target
  · have hp : (y.applied ⟨u.next, chain u.next⟩).best.Precedes b.height := by
      change b.height.toNat = u.next.toNat + 1
      rw [hheight, hlast]
    obtain ⟨hrec, hidle⟩ := of_closeCatchUp (y := y.applied ⟨u.next, chain u.next⟩) h.phase h.auto
      h.held h.last h.inbox hfollows hfetched hb hp
    rw [advanceCatchUp_of_last (.inl hlast)]
    refine ⟨hrec, ?_⟩
    rw [workLeft, (Frame.closeCatchUp _ u).inbox, applied_inbox, hidle]
    exact hless 0 (by omega)
  · have hs : (y.applied ⟨u.next, chain u.next⟩).isStopped = false := by
      simp [isStopped, h.phase]
    have hlt := Height.toNat_lt_of_ne hle hlast
    have hadd := Height.toNat_add_one hlt
    rw [advanceCatchUp_of_not_last hlast hs]
    refine ⟨⟨h.phase, h.auto, h.held, h.last, hfollows, ?_, h.inbox, ?_⟩, ?_⟩
    · rintro _ ⟨⟩
      exact ⟨⟨hadd, by dsimp only; omega, hfits.cause⟩, hcause⟩
    · simpa [pending, hb, PlacedBlock.stamp] using hfetched
    · rw [workLeft]
      exact hless _ (by dsimp only; omega)

/-- A client that has come to rest stands at the greatest height, and its outcome is that of a
client that was handed every block in order. -/
theorem outcome_of_isAtRest (h : Recovering chain n x y) (hrest : y.IsAtRest) :
    y.best.height = n ∧
      y.outcome = (follow chain)^[n.toNat - x.best.height.toNat] x.outcome := by
  have hpending : y.pending = [] := by simp [pending, hrest.1, hrest.2]
  have hbest : y.best.height = n := by
    obtain hn | ⟨b, hb, _⟩ := h.covers.reaches
    · exact hn
    · rw [hpending] at hb
      cases hb
  obtain ⟨k, hk, hheight⟩ := h.follows
  rw [hbest] at hheight
  refine ⟨hbest, ?_⟩
  rw [hk, hheight, Nat.add_sub_cancel_left]

end Recovering

/-- What has been applied is at the height of the chain where it belongs. -/
theorem follow_hash (chain : Height → Block) (c : Client) (k : Nat) :
    ((follow chain)^[k + 1] c).best.hash =
      (chain ((follow chain)^[k + 1] c).best.height).hash := by
  rw [Function.iterate_succ_apply']
  rfl

def blockEvents (chain : Height → Block) (heights : List Height) : List Event :=
  heights.map fun h => .blockConnected ⟨h, chain h⟩

theorem filterMap_blockEvents (chain : Height → Block) (heights : List Height) :
    (blockEvents chain heights).filterMap Event.block? =
      heights.map fun h => ⟨h, chain h⟩ := by
  rw [blockEvents, List.filterMap_map, ← List.filterMap_eq_map]
  rfl

theorem recovering_blockEvents {heights : List Height} (hphase : x.phase = .running)
    (hauto : x.autoCatchUp = true) (hheld : x.held = none) (hlast : x.last = none)
    (hidle : x.catchUp = none) (hbest : x.best.height.toNat ≤ n.toNat) (hn : n ∈ heights)
    (hmax : ∀ h ∈ heights, h.toNat ≤ n.toNat) :
    Recovering chain n x { x with inbox := blockEvents chain heights } := by
  refine .of_idle hphase hauto hheld hlast ?_ ⟨0, rfl, rfl⟩ hidle ?_
  · intro e he
    obtain ⟨h, _, rfl⟩ := List.mem_map.1 he
    exact ⟨_, rfl⟩
  · dsimp only
    rw [filterMap_blockEvents]
    refine ⟨hbest, ?_, ?_, .inr ⟨⟨n, chain n⟩, List.mem_map.2 ⟨n, hn, rfl⟩, rfl⟩⟩
    · intro b hb
      obtain ⟨h, _, rfl⟩ := List.mem_map.1 hb
      rfl
    · intro b hb
      obtain ⟨h, hh, rfl⟩ := List.mem_map.1 hb
      exact hmax h hh

end

end Client

end ChainFeed
