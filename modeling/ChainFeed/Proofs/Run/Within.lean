import ChainFeed.Proofs.Client.Within
import ChainFeed.Proofs.Run.BlockStep

/-!
# Connections that stay within bounds

As long as the blocks that are handed out and those that clients fetch are within bounds, so are the
watermark, every client and all that the clients tell of. A new client takes its best block from the
watermark. One such bound is the watermark itself.
-/

namespace ChainFeed.Connection

structure Within (B : Bounds) (c : Connection) : Prop where
  watermark : B.stamp c.hub.watermark
  target : B.target c.hub.watermark.height
  clients : ∀ (slot : Nat) (x : Client), c.hub.clients[slot]? = some x →
    (∃ base, x.Steady base) ∧ x.blocks.Within B

namespace Within

variable {B B' : Bounds} {c : Connection} {a : Action}

theorem mono (h : c.Within B) (hblock : ∀ b, B.block b → B'.block b)
    (hstamp : ∀ s, B.stamp s → B'.stamp s) (htarget : ∀ t, B.target t → B'.target t) :
    c.Within B' := by
  refine ⟨hstamp _ h.watermark, htarget _ h.target, fun slot x hx => ?_⟩
  obtain ⟨hsteady, hin⟩ := h.clients slot x hx
  exact ⟨hsteady, hin.mono hblock hstamp htarget⟩

theorem opened (config : BackendConfig) {best : Stamp} (hbest : B.stamp best)
    (htarget : B.target best.height) : (opened config best).Within B :=
  ⟨hbest, htarget, fun _ _ hx => nomatch hx⟩

section
variable (hblocks : ∀ b ∈ c.blocksAt a, B.block b)
  (hanswer : ∀ slot source, a = .answerClient slot source → ∀ h t block, B.target t →
    h.toNat ≤ t.toNat → source.block h = .ok block → B.block ⟨h, block⟩)
include hblocks hanswer

theorem admits_inputs (h : c.Within B) (slot : Nat) : B.Admits (c.inputs slot a) := by
  refine ⟨fun b hb => hblocks b (c.mem_blocksAt.2 hb), ?_, ?_⟩
  · rintro _ ⟨_, rfl⟩
    exact h.target
  · intro height t block ht hle hr
    obtain ⟨source, ha, hblock⟩ := source_of_mem_answersAt hr
    exact hanswer slot source ha height t block ht hle hblock.symm

theorem step_client (h : c.Within B) (hpast : ∀ slot b, a ≠ .receiveBlock slot b) {slot : Nat}
    {x y : Client} (hx : c.hub.clients[slot]? = some x)
    (hy : (c.step a).hub.clients[slot]? = some y) :
    (∃ base, y.Steady base) ∧ y.blocks.Within B := by
  obtain ⟨⟨base, hsteady⟩, hin⟩ := h.clients slot x hx
  cases clientStep_of_getElem? hx hy with
  | moves _ hm =>
    have hB := h.admits_inputs hblocks hanswer slot
    have hboth : y.Steady base ∧ y.blocks.Within B :=
      hm.keep (P := fun z => z.Steady base ∧ z.blocks.Within B)
        (fun hm hz => ⟨hz.1.move hm, (hm.blockMove hz.1).within hB hz.2⟩) ⟨hsteady, hin⟩
    exact ⟨⟨base, hboth.1⟩, hboth.2⟩
  | watchScript s => exact ⟨⟨base, hsteady.congr rfl rfl rfl⟩, hin⟩
  | watchOutpoints l => exact ⟨⟨base, hsteady.congr rfl rfl rfl⟩, hin⟩
  | receiveTransaction t =>
    exact ⟨⟨base, hsteady.receiveTransaction t⟩, by rwa [Client.blocks_receiveTransaction]⟩
  | receiveBlock b => exact absurd rfl (hpast slot b)

theorem step (h : c.Within B) (hpast : ∀ slot b, a ≠ .receiveBlock slot b)
    (htarget : ∀ b ∈ c.blocksAt a, B.target b.height) : (c.step a).Within B := by
  have hwatermark : B.stamp (c.step a).hub.watermark ∧
      B.target (c.step a).hub.watermark.height := by
    obtain ⟨_, hw⟩ | ⟨b, hb, hw⟩ := c.watermark_step a
    · rw [hw]
      exact ⟨h.watermark, h.target⟩
    · have hmem : b ∈ c.blocksAt a := by simp [hb]
      rw [hw, Stamp.raisedTo]
      split
      · exact ⟨B.stamp_of_block b (hblocks b hmem), htarget b hmem⟩
      · exact ⟨h.watermark, h.target⟩
  refine ⟨hwatermark.1, hwatermark.2, fun slot y hy => ?_⟩
  cases hx : c.hub.clients[slot]? with
  | some x => exact h.step_client hblocks hanswer hpast hx hy
  | none =>
    -- Only a new client fills a slot, and it stands at the watermark.
    obtain ⟨_, _, _, rfl⟩ := newClient_of_free slot c hx hy
    exact ⟨⟨c.hub.watermark, .new _ _ _ _ true⟩, Client.within_new _ _ _ _ true h.watermark⟩

end

end Within

/-- The watermark bounds every client: no step lets it fall, or a client rise above it. -/
theorem within_step_upTo {c : Connection} {a : Action}
    (h : c.Within (.upTo c.hub.watermark.height)) (hpast : ∀ slot b, a ≠ .receiveBlock slot b) :
    (c.step a).Within (.upTo (c.step a).hub.watermark.height) := by
  have hraised : c.hub.watermark.height.toNat ≤ (c.step a).hub.watermark.height.toNat ∧
      ∀ b ∈ c.blocksAt a, b.height.toNat ≤ (c.step a).hub.watermark.height.toNat := by
    obtain ⟨hblocks, hw⟩ | ⟨b, hblocks, hw⟩ := c.watermark_step a
    · rw [hblocks, hw]
      exact ⟨Nat.le_refl _, fun b hb => nomatch hb⟩
    · rw [hblocks, hw, Stamp.height_raisedTo]
      refine ⟨Nat.le_max_left _ _, fun b' hb' => ?_⟩
      rw [List.mem_singleton.1 hb']
      exact Nat.le_max_right _ _
  have hwide : c.Within (.upTo (c.step a).hub.watermark.height) := h.mono
    (fun _ hb => Nat.le_trans hb hraised.1) (fun _ hs => Nat.le_trans hs hraised.1)
    (fun _ ht => Nat.le_trans ht hraised.1)
  exact hwide.step hraised.2 (fun _ _ _ _ _ _ ht hle _ => Nat.le_trans hle ht) hpast hraised.2

theorem within_run_upTo {c : Connection} {actions : List Action}
    (h : c.Within (.upTo c.hub.watermark.height))
    (hpast : ∀ slot b, .receiveBlock slot b ∉ actions) :
    (c.run actions).Within (.upTo (c.run actions).hub.watermark.height) := by
  induction actions generalizing c with
  | nil => exact h
  | cons a rest ih =>
    exact ih (within_step_upTo h fun slot b hb => hpast slot b (hb ▸ List.mem_cons_self))
      fun slot b hb => hpast slot b (List.mem_cons_of_mem _ hb)

end ChainFeed.Connection
