import ChainFeed.Proofs.Client.Recovery
import ChainFeed.Proofs.Run.BlockStep

/-!
# Recovery in a run

The handler of a client works through its inbox and asks a node for the blocks that it has missed.
Whatever blocks were lost, repeated or out of order, it comes to rest, and what it has come to does
not depend on them but only on the greatest height.
-/

namespace ChainFeed

open Client

/-- The handler of the client at `slot` does something, or gets an answer from a node that has every
block of `chain`. -/
inductive Action.Serves (chain : Height → Block) (slot : Nat) : Action → Prop where
  | handle : Serves chain slot (.handle slot)
  | answer (source : Source) (h : ∀ k, source.block k = .ok (chain k)) :
      Serves chain slot (.answerClient slot source)

/-- Every height above `s` up to `n`, in order. -/
def Height.above (s n : Height) : List Height :=
  (List.range' (s.toNat + 1) (n.toNat - s.toNat)).map Nat.toUInt32

theorem Height.mem_above {s n h : Height} :
    h ∈ above s n ↔ s.toNat < h.toNat ∧ h.toNat ≤ n.toNat := by
  have hn : n.toNat < UInt32.size := n.toNat_lt
  rw [above, List.mem_map]
  constructor
  · rintro ⟨k, hk, rfl⟩
    obtain ⟨hlow, hhigh⟩ := List.mem_range'_1.1 hk
    have hk' : k.toUInt32.toNat = k := UInt32.toNat_ofNat_of_lt (by omega)
    omega
  · rintro ⟨hlow, hhigh⟩
    exact ⟨h.toNat, List.mem_range'_1.2 ⟨by omega, by omega⟩, UInt32.ofNat_toNat⟩

theorem Hub.getElem?_resumeCatchUp {h : Hub} {slot : Nat} {y : Client}
    (hy : h.clients[slot]? = some y) (answer : Except Error Block) :
    (h.resumeCatchUp slot answer).1.clients[slot]? = some (y.resumeCatchUp answer).1 := by
  unfold Hub.resumeCatchUp
  simp only [hy]
  cases hu : y.catchUp with
  | none => simp only [Option.isNone_none, if_true, hy, resumeCatchUp_of_none hu]
  | some u =>
    have hmod : (h.modifyClient slot fun _ => (y.resumeCatchUp answer).1).clients[slot]? =
        some (y.resumeCatchUp answer).1 := by
      change (h.clients.modify slot _)[slot]? = _
      rw [List.getElem?_modify_eq, hy]
      rfl
    cases answer with
    | error e => exact hmod
    | ok block => exact hmod

namespace Connection

section
variable {c : Connection} {slot : Nat} {y : Client}

theorem step_handle (hy : c.hub.clients[slot]? = some y) :
    (c.step (.handle slot)).hub.clients[slot]? = some y.handle := by
  rw [step, getElem?_onClient slot c slot _ y hy, if_pos rfl]

theorem step_answerClient (hy : c.hub.clients[slot]? = some y) (source : Source) :
    (c.step (.answerClient slot source)).hub.clients[slot]? =
      some (y.resumeCatchUp (answerTo source y)).1 := by
  simp only [step, answerClient, hy]
  exact Hub.getElem?_resumeCatchUp hy _

variable {chain : Height → Block} {n : Height} {x : Client}

/-- The handler and the node only lead further. -/
theorem recovering_step {a : Action} (ha : a.Serves chain slot)
    (hy : c.hub.clients[slot]? = some y) (h : Recovering chain n x y) :
    ∃ z, (c.step a).hub.clients[slot]? = some z ∧ Recovering chain n x z := by
  cases ha with
  | handle =>
    refine ⟨_, step_handle hy, ?_⟩
    cases hu : y.catchUp with
    | some u =>
      have hbusy : y.isBusy = true := by simp [isBusy, hu, (h.fits u hu).2]
      rwa [handle_of_isBusy h.held hbusy]
    | none =>
      cases hin : y.inbox with
      | nil =>
        have hcan : ¬ y.canHandle = true := by simp [canHandle, h.held, h.last, hin]
        rwa [Client.handle, if_neg hcan]
      | cons e rest => exact (h.handle hu hin).1
  | answer source hsource =>
    refine ⟨_, step_answerClient hy source, ?_⟩
    cases hu : y.catchUp with
    | none => rwa [resumeCatchUp_of_none hu]
    | some u =>
      have hanswer : answerTo source y = .ok (chain u.next) := by
        simp only [answerTo, hu, hsource]
      rw [hanswer]
      exact (h.resume hu).1

theorem recovering_run {actions : List Action} (hserves : ∀ a ∈ actions, a.Serves chain slot)
    (hy : c.hub.clients[slot]? = some y) (h : Recovering chain n x y) :
    ∃ z, (c.run actions).hub.clients[slot]? = some z ∧ Recovering chain n x z := by
  induction actions generalizing c y with
  | nil => exact ⟨y, hy, h⟩
  | cons a rest ih =>
    obtain ⟨z, hz, hrec⟩ := recovering_step (hserves a List.mem_cons_self) hy h
    exact ih (fun b hb => hserves b (List.mem_cons_of_mem _ hb)) hz hrec

/-- A client that recovers has something to do until it is at rest, and there is ever less left. -/
theorem exists_run_to_rest (hy : c.hub.clients[slot]? = some y) (h : Recovering chain n x y) :
    ∃ actions z, (∀ a ∈ actions, a.Serves chain slot) ∧
      (c.run actions).hub.clients[slot]? = some z ∧ z.IsAtRest := by
  induction hwork : y.workLeft using Nat.strongRecOn generalizing c y with
  | _ work ih =>
    subst hwork
    cases hu : y.catchUp with
    | some u =>
      obtain ⟨hrec, hless⟩ := h.resume hu
      have hanswer : answerTo (.ofChain x.best chain) y = .ok (chain u.next) := by
        simp only [answerTo, hu, Source.ofChain]
      have hstep := step_answerClient hy (.ofChain x.best chain)
      rw [hanswer] at hstep
      obtain ⟨actions, z, hserves, hz, hrest⟩ := ih _ hless hstep hrec rfl
      exact ⟨_ :: actions, z, List.forall_mem_cons.2 ⟨.answer _ fun _ => rfl, hserves⟩, hz, hrest⟩
    | none =>
      cases hin : y.inbox with
      | nil => exact ⟨[], y, by simp, hy, hin, hu⟩
      | cons e rest =>
        obtain ⟨hrec, hless⟩ := h.handle hu hin
        obtain ⟨actions, z, hserves, hz, hrest⟩ := ih _ hless (step_handle hy) hrec rfl
        exact ⟨_ :: actions, z, List.forall_mem_cons.2 ⟨.handle, hserves⟩, hz, hrest⟩

end

/-- A running client that fetches what it misses is handed blocks of a chain in any order, with any
repeated or left out, up to height `n`. Another client like it is handed every block up to `n` once
and in order. Both come to rest, and then they have the same best block, watch-list and mirror and
have told of the same, except for gaps and catch-ups. -/
theorem recovery_is_invisible {chain : Height → Block} {c d : Connection} {slot place : Nat}
    {x : Client} {heights : List Height} {n : Height} (hphase : x.phase = .running)
    (hauto : x.autoCatchUp = true) (hheld : x.held = none) (hlast : x.last = none)
    (hidle : x.catchUp = none) (hbest : x.best.height.toNat < n.toNat) (hn : n ∈ heights)
    (hmax : ∀ h ∈ heights, h.toNat ≤ n.toNat)
    (hc : c.hub.clients[slot]? = some { x with inbox := blockEvents chain heights })
    (hd : d.hub.clients[place]? =
      some { x with inbox := blockEvents chain (Height.above x.best.height n) }) :
    (∃ actions y, (∀ a ∈ actions, a.Serves chain slot) ∧
        (c.run actions).hub.clients[slot]? = some y ∧ y.IsAtRest) ∧
      (∃ actions z, (∀ a ∈ actions, a.Serves chain place) ∧
        (d.run actions).hub.clients[place]? = some z ∧ z.IsAtRest) ∧
      ∀ actions actions' y z, (∀ a ∈ actions, a.Serves chain slot) →
        (∀ a ∈ actions', a.Serves chain place) →
        (c.run actions).hub.clients[slot]? = some y →
        (d.run actions').hub.clients[place]? = some z → y.IsAtRest → z.IsAtRest →
          y.best = ⟨n, (chain n).hash⟩ ∧ y.best = z.best ∧ y.watch = z.watch ∧
            y.mirror = z.mirror ∧ y.sent.filter (fun m => !m.isRecovery) =
              z.sent.filter fun m => !m.isRecovery := by
  have hany : Recovering chain n x { x with inbox := blockEvents chain heights } :=
    recovering_blockEvents hphase hauto hheld hlast hidle (by omega) hn hmax
  have hordered : Recovering chain n x
      { x with inbox := blockEvents chain (Height.above x.best.height n) } :=
    recovering_blockEvents hphase hauto hheld hlast hidle (by omega)
      (Height.mem_above.2 ⟨hbest, Nat.le_refl _⟩) (fun h hh => (Height.mem_above.1 hh).2)
  refine ⟨exists_run_to_rest hc hany, exists_run_to_rest hd hordered, ?_⟩
  intro actions actions' y z hserves hserves' hy hz hyrest hzrest
  obtain ⟨y', hy', hyrec⟩ := recovering_run hserves hc hany
  obtain ⟨z', hz', hzrec⟩ := recovering_run hserves' hd hordered
  obtain rfl : y = y' := Option.some.inj (hy.symm.trans hy')
  obtain rfl : z = z' := Option.some.inj (hz.symm.trans hz')
  obtain ⟨hheight, hyout⟩ := hyrec.outcome_of_isAtRest hyrest
  obtain ⟨_, hzout⟩ := hzrec.outcome_of_isAtRest hzrest
  have hout : y.outcome = z.outcome := hyout.trans hzout.symm
  have hhash : y.best.hash = (chain y.best.height).hash := by
    have hpos : n.toNat - x.best.height.toNat = n.toNat - x.best.height.toNat - 1 + 1 := by omega
    have hfollow := follow_hash chain x.outcome (n.toNat - x.best.height.toNat - 1)
    rw [← hpos, ← hyout] at hfollow
    exact hfollow
  have hsame := congrArg Client.best hout
  have hwatch := congrArg Client.watch hout
  have hmirror := congrArg Client.mirror hout
  have hsent := congrArg Client.sent hout
  refine ⟨?_, hsame, hwatch, hmirror, hsent⟩
  rw [← hheight, ← hhash]

def startedSample : Client :=
  { Client.new ⟨1⟩ .regtest true 1000 ⟨5, .zero⟩ with
    registered := true, phase := .running, sent := [.clientConnected ⟨5, .zero⟩] }

/-- A connection whose only client has been started and handed blank blocks at some heights. -/
def handedSample (heights : List Height) : Connection :=
  (opened .standard ⟨5, .zero⟩).run (.newClient :: .startClient 0 ::
    heights.map fun h => .push (.blockConnected ⟨h, .blank⟩))

theorem recovers_from_repeated_and_missing_blocks : ∃ actions actions' y z,
    (∀ a ∈ actions, a.Serves (fun _ => .blank) 0) ∧
      (∀ a ∈ actions', a.Serves (fun _ => .blank) 0) ∧
      ((handedSample [7, 9, 7]).run actions).hub.clients[0]? = some y ∧
      ((handedSample [6, 7, 8, 9]).run actions').hub.clients[0]? = some z ∧
      y.best.height = 9 ∧ y.best = z.best ∧ y.sent.filter (fun m => !m.isRecovery) =
        z.sent.filter fun m => !m.isRecovery := by
  have hc : (handedSample [7, 9, 7]).hub.clients[0]? =
      some { startedSample with inbox := blockEvents (fun _ => .blank) [7, 9, 7] } := rfl
  have hd : (handedSample [6, 7, 8, 9]).hub.clients[0]? = some { startedSample with
      inbox := blockEvents (fun _ => .blank) (Height.above startedSample.best.height 9) } := rfl
  obtain ⟨⟨actions, y, hserves, hy, hyrest⟩, ⟨actions', z, hserves', hz, hzrest⟩, hsame⟩ :=
    recovery_is_invisible rfl rfl rfl rfl rfl (by decide) (by simp) (by simp) hc hd
  obtain ⟨hbest, hequal, _, _, hsent⟩ :=
    hsame actions actions' y z hserves hserves' hy hz hyrest hzrest
  exact ⟨actions, actions', y, z, hserves, hserves', hy, hz, by rw [hbest], hequal, hsent⟩

end Connection

end ChainFeed
