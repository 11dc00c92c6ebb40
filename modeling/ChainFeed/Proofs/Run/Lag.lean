import ChainFeed.Proofs.Run.Deliveries
import ChainFeed.Proofs.Run.Within

/-!
# No lag without a missed block

A client fills the gaps that it comes upon, so in the end every block that it has accepted is at its
best block or below. What carries this through is that until then the block is in its hands. From
above the best block is bounded by the watermark. The two meet at the watermark, unless the client
has missed the very block that the watermark moved to.
-/

namespace ChainFeed

open Client

/-- Every block of the list is at the best block or below, or in hand. -/
def BlockView.Covers (accepted : List PlacedBlock) (v : BlockView) : Prop :=
  ∀ b ∈ accepted, b.height.toNat ≤ v.best.height.toNat ∨ b ∈ v.waiting

namespace BlockView.Covers

variable {accepted : List PlacedBlock} {v w : BlockView}

theorem mono (h : v.Covers accepted) (hbest : v.best.height.toNat ≤ w.best.height.toNat)
    (hwaiting : ∀ b ∈ v.waiting, b.height.toNat ≤ w.best.height.toNat ∨ b ∈ w.waiting) :
    w.Covers accepted := by
  intro b hb
  obtain hle | hin := h b hb
  · exact .inl (Nat.le_trans hle hbest)
  · exact hwaiting b hin

/-- The client is done with the first block in hand. -/
theorem tail (h : v.Covers accepted) {b : PlacedBlock} (hfirst : v.waiting = b :: w.waiting)
    (hbest : v.best.height.toNat ≤ w.best.height.toNat)
    (hb : b.height.toNat ≤ w.best.height.toNat) : w.Covers accepted := by
  refine h.mono hbest fun b' hb' => ?_
  rw [hfirst] at hb'
  obtain rfl | hb' := List.mem_cons.1 hb'
  · exact .inl hb
  · exact .inr hb'

theorem push (h : v.Covers accepted) (b : PlacedBlock) :
    ({ v with waiting := v.waiting ++ [b] }).Covers (accepted ++ [b]) := by
  intro b' hb'
  obtain hb' | hb' := List.mem_append.1 hb'
  · exact (h b' hb').imp_right (List.mem_append_left _)
  · exact .inr (List.mem_append_right _ hb')

end BlockView.Covers

/-- A client that stays in the fan-out, fills its gaps and gets what it fetches covers what it has
covered. -/
theorem Client.BlockMove.covers {given : Input} {c d : Client} (hm : BlockMove given c d)
    (hregistered : d.registered = true) (hrun : c.isStopped = false) (hlast : c.last = none)
    (hauto : c.autoCatchUp = true) (hanswers : ∀ h e, ¬ given.answer h (.error e))
    {accepted : List PlacedBlock} (h : c.blocks.Covers accepted) : d.blocks.Covers accepted := by
  cases hm with
  | same hd => rwa [hd]
  | lost rest _ hout =>
    rw [hout hlast] at hregistered
    cases hregistered
  | delivered b _ hd =>
    rw [hd]
    exact h.mono (Nat.le_refl _) fun b hb => .inr (List.mem_append_left _ hb)
  | applied b rest _ hfirst hnext hd =>
    have hheight : b.height.toNat = c.best.height.toNat + 1 := hnext
    rw [hd]
    exact h.tail hfirst (by change c.best.height.toNat ≤ b.height.toNat; omega) (Nat.le_refl _)
  | passed b rest hfirst hle hd =>
    rw [hd]
    exact h.tail hfirst (Nat.le_refl _) hle
  | gapLeft _ _ _ _ hleft =>
    rw [hleft hauto] at hrun
    cases hrun
  | gapFetched b rest _ _ _ hd =>
    rw [hd]
    exact h.mono (Nat.le_refl _) fun b hb => .inr hb
  | setOut target _ _ _ hd =>
    rw [hd]
    exact h.mono (Nat.le_refl _) fun b hb => .inr hb
  | broken u e _ _ hgiven => exact absurd hgiven (hanswers _ e)
  | fetched u block _ hfits _ _ hd =>
    have hnext := hfits.next
    rw [hd]
    exact h.mono (by change c.best.height.toNat ≤ u.next.toNat; omega) fun b hb => .inr hb
  | closed u block rest _ hfits _ hcause hrest hd =>
    have hnext := hfits.next
    have hnone : u.cause = none := hcause.resolve_right (by rw [hrun]; exact Bool.false_ne_true)
    rw [hnone] at hrest
    rw [hd]
    refine h.mono (by change c.best.height.toNat ≤ u.next.toNat; omega) fun b hb => .inr ?_
    change b ∈ c.waiting at hb
    rwa [hrest] at hb
  | filled u block b rest _ _ hfirst hfits hcause hd =>
    have hnext := hfits.next
    have hle := hfits.next_le_target
    have hb := hfits.cause b hcause
    rw [hd]
    exact h.tail hfirst (by change c.best.height.toNat ≤ b.height.toNat; omega) (Nat.le_refl _)

namespace Connection

/-- The blocks that a step moves the watermark to and that the client at `slot` misses. -/
def lostAt (slot : Nat) (c : Connection) (a : Action) : List PlacedBlock :=
  (c.missedAt slot a).filter fun b => c.hub.watermark.isBelow b.stamp

/-- A client that was made at the watermark `base` covers what it has accepted, and the watermark is
still that one, or at a block that the client has accepted or lost. -/
structure KeepsUp (base watermark : Stamp) (accepted lost : List PlacedBlock) (x : Client) : Prop
    extends x.InOrder base where
  covers : x.registered = true → x.autoCatchUp = true → x.blocks.Covers accepted
  watermark : x.registered = true → watermark = base ∨ (∃ b ∈ accepted, b.stamp = watermark) ∨
    ∃ b ∈ lost, b.stamp = watermark

namespace KeepsUp

variable {base watermark : Stamp} {accepted lost : List PlacedBlock} {x y : Client}

theorem of_place (h : KeepsUp base watermark accepted lost x) (hplace : SamePlace x y)
    (hview : y.blocks = x.blocks) : KeepsUp base watermark accepted lost y := by
  refine ⟨h.toInOrder.congr hplace hview, ?_, ?_⟩
  · rw [hplace.registered, hplace.autoCatchUp, hview]
    exact h.covers
  · rw [hplace.registered]
    exact h.watermark

theorem move {given : Input} (hanswers : ∀ h e, ¬ given.answer h (.error e))
    (hm : Move given x y) (h : KeepsUp base watermark accepted lost x) :
    KeepsUp base watermark accepted lost y := by
  refine ⟨h.toInOrder.move hm, fun hin hauto => ?_, fun hin => ?_⟩
  · have hplace := hm.samePlace hin
    have hin' : x.registered = true := hplace.registered ▸ hin
    have hauto' : x.autoCatchUp = true := hplace.autoCatchUp ▸ hauto
    obtain ⟨hrun, hlast⟩ := h.orderly hin'
    exact (hm.blockMove h.steady).covers hin hrun hlast hauto' hanswers (h.covers hin' hauto')
  · exact h.watermark ((hm.samePlace hin).registered ▸ hin)

/-- A block that is handed out is accepted, or lost if the watermark moves to it, unless the
client is out of the fan-out. -/
theorem offered {slot : Nat} {c : Connection} {a : Action} {b : PlacedBlock}
    (hx : c.hub.clients[slot]? = some x) (hblocks : c.blocksAt a = [b])
    (hraised : (c.step a).hub.watermark = c.hub.watermark.raisedTo b.stamp)
    (h : KeepsUp base c.hub.watermark accepted lost x) :
    KeepsUp base (c.step a).hub.watermark (accepted ++ c.acceptedAt slot a)
      (lost ++ c.lostAt slot a) (x.offer (fun _ => true) (.blockConnected b)) := by
  have hplace := SamePlace.offer (fun _ => true) (.blockConnected b) x
  refine ⟨h.toInOrder.offer _ _, fun hin hauto => ?_, fun hin => ?_⟩
  · have hin' : x.registered = true := hplace.registered ▸ hin
    have hcovers := h.covers hin' (hplace.autoCatchUp ▸ hauto)
    obtain ⟨hacc, _, ho⟩ | ⟨hacc, _, ho⟩ := accepted_or_missed hx h.orderly hin' hblocks
    · rw [hacc, ho]
      exact hcovers.push b
    · rw [hacc, ho, List.append_nil]
      exact hcovers
  · have hin' : x.registered = true := hplace.registered ▸ hin
    rw [hraised, Stamp.raisedTo]
    split
    · next hbelow =>
      obtain ⟨hacc, _, _⟩ | ⟨_, hmiss, _⟩ := accepted_or_missed hx h.orderly hin' hblocks
      · exact .inr (.inl ⟨b, by simp [hacc], rfl⟩)
      · exact .inr (.inr ⟨b, by simp [lostAt, hmiss, hbelow], rfl⟩)
    · have hstill {l : List PlacedBlock} (m : List PlacedBlock) :
          (∃ b ∈ l, b.stamp = c.hub.watermark) → ∃ b ∈ l ++ m, b.stamp = c.hub.watermark := by
        rintro ⟨b', hb', hs⟩
        exact ⟨b', List.mem_append_left m hb', hs⟩
      exact (h.watermark hin').imp_right (Or.imp (hstill _) (hstill _))

theorem step {slot : Nat} {c : Connection} {a : Action} (hpast : ∀ b, a ≠ .receiveBlock slot b)
    (hanswers : ∀ h r, (h, r) ∈ c.answersAt slot a → ∃ block, r = .ok block)
    (hx : c.hub.clients[slot]? = some x) (hy : (c.step a).hub.clients[slot]? = some y)
    (h : KeepsUp base c.hub.watermark accepted lost x) :
    KeepsUp base (c.step a).hub.watermark (accepted ++ c.acceptedAt slot a)
      (lost ++ c.lostAt slot a) y := by
  have hquiet (hblocks : c.blocksAt a = []) : (c.step a).hub.watermark = c.hub.watermark ∧
      accepted ++ c.acceptedAt slot a = accepted ∧ lost ++ c.lostAt slot a = lost := by
    obtain ⟨_, hw⟩ | ⟨b, hb, _⟩ := c.watermark_step a
    · rw [acceptedAt_of_nil hblocks, lostAt, missedAt_of_nil hblocks]
      exact ⟨hw, List.append_nil _, List.append_nil _⟩
    · rw [hblocks] at hb
      cases hb
  cases blockTurn_of_getElem? hpast hx hy with
  | offered b hblocks hy =>
    obtain ⟨hnil, _⟩ | ⟨b', hb', hraised⟩ := c.watermark_step a
    · rw [hnil] at hblocks
      cases hblocks
    · obtain rfl : b' = b := List.singleton_inj.1 (hb'.symm.trans hblocks)
      rw [hy]
      exact h.offered hx hblocks hraised
  | moves hblocks hm =>
    obtain ⟨hw, hacc, hlost⟩ := hquiet hblocks
    rw [hw, hacc, hlost]
    refine hm.keep (P := KeepsUp base c.hub.watermark accepted lost) (KeepsUp.move ?_) h
    intro height e he
    obtain ⟨block, hr⟩ := hanswers height _ he
    cases hr
  | aside hblocks hplace hview =>
    obtain ⟨hw, hacc, hlost⟩ := hquiet hblocks
    rw [hw, hacc, hlost]
    exact h.of_place hplace hview

theorem run {slot : Nat} {c : Connection} {actions : List Action}
    (hpast : ∀ b, .receiveBlock slot b ∉ actions)
    (hanswers : ∀ h r, (h, r) ∈ c.trace (answersAt slot) actions → ∃ block, r = .ok block)
    (hx : c.hub.clients[slot]? = some x) (h : KeepsUp base c.hub.watermark accepted lost x) :
    ∃ y, (c.run actions).hub.clients[slot]? = some y ∧
      KeepsUp base (c.run actions).hub.watermark (accepted ++ c.trace (acceptedAt slot) actions)
        (lost ++ c.trace (lostAt slot) actions) y := by
  induction actions generalizing c x accepted lost with
  | nil =>
    simp only [trace_nil, List.append_nil]
    exact ⟨x, hx, h⟩
  | cons a rest ih =>
    obtain ⟨y, hy, _⟩ := c.step_client slot a hx
    have hstep := h.step (fun b hb => hpast b (hb ▸ List.mem_cons_self))
      (fun height r hr => hanswers height r (List.mem_append_left _ hr)) hx hy
    obtain ⟨z, hz, hkeeps⟩ := ih (fun b hb => hpast b (List.mem_cons_of_mem _ hb))
      (fun height r hr => hanswers height r (List.mem_append_right _ hr)) hy hstep
    rw [List.append_assoc, List.append_assoc] at hkeeps
    exact ⟨z, hz, hkeeps⟩

theorem new (id : ClientId) (network : Network) (auto : Bool) (size : Nat) (base : Stamp) :
    KeepsUp base base [] [] { Client.new id network auto size base with registered := true } :=
  ⟨.new id network auto size base, fun _ _ _ hb => (nomatch hb), fun _ => .inl rfl⟩

/-- With nothing in hand a client stands at the watermark or above, unless it has lost the block
there. -/
theorem watermark_le (h : KeepsUp base watermark accepted lost x) (hin : x.registered = true)
    (hauto : x.autoCatchUp = true) (hwaiting : x.waiting = []) :
    (∀ b ∈ accepted, b.height.toNat ≤ x.best.height.toNat) ∧
      (watermark.height.toNat ≤ x.best.height.toNat ∨ ∃ b ∈ lost, b.stamp = watermark) := by
  have hcovered : ∀ b ∈ accepted, b.height.toNat ≤ x.best.height.toNat := by
    intro b hb
    refine (h.covers hin hauto b hb).resolve_right ?_
    change b ∉ x.waiting
    rw [hwaiting]
    exact List.not_mem_nil
  refine ⟨hcovered, ?_⟩
  obtain rfl | ⟨b, hb, rfl⟩ | hlost := h.watermark hin
  · have hheight := h.steady.gapless.height_best
    exact .inl (by omega)
  · exact .inl (hcovered b hb)
  · exact .inr hlost

end KeepsUp

/-- A client that stays in the fan-out, fills its gaps and gets what it fetches, and has nothing in
its inbox and nothing in the works: every block that it has accepted is at its best block or below,
and the best block is at the height of the watermark, unless the inbox was full when the very block
came that the watermark is at. -/
theorem no_lag_without_a_lost_block (config : BackendConfig) (best : Stamp)
    (before after : List Action) (hopen : ((opened config best).run before).stopped = false)
    (hpast : ∀ slot b, .receiveBlock slot b ∉ before ++ after) :
    let made := (opened config best).run before
    let slot := made.hub.clients.length
    let new := made.step .newClient
    let now := new.run after
    (∀ h r, (h, r) ∈ new.trace (answersAt slot) after → ∃ block, r = .ok block) →
    ∃ x, now.hub.clients[slot]? = some x ∧
      (x.registered = true → x.autoCatchUp = true → x.inbox = [] → x.isBusy = false →
        (∀ b ∈ new.trace (acceptedAt slot) after, b.height.toNat ≤ x.best.height.toNat) ∧
        (x.best.height = now.hub.watermark.height ∨
          ∃ b ∈ new.trace (lostAt slot) after, b.stamp = now.hub.watermark)) := by
  intro made slot new now hanswers
  have hbefore : ∀ slot b, .receiveBlock slot b ∉ before :=
    fun slot b hb => hpast slot b (List.mem_append_left _ hb)
  have hafter : ∀ slot b, .receiveBlock slot b ∉ after :=
    fun slot b hb => hpast slot b (List.mem_append_right _ hb)
  have hnew := made.newClient_client hopen
  have hwatermark : new.hub.watermark = made.hub.watermark := by
    obtain ⟨_, hw⟩ | ⟨b, hb, _⟩ := made.watermark_step .newClient
    · exact hw
    · cases hb
  have hstart := KeepsUp.new ⟨(made.allocated + 1).toUInt64⟩ made.config.network
    made.config.autoCatchUp made.config.clientBuffer.toNat made.hub.watermark
  rw [← hwatermark] at hstart hnew
  obtain ⟨x, hx, hkeeps⟩ := hstart.run (hafter slot) hanswers hnew
  refine ⟨x, hx, fun hin hauto hinbox hfree => ?_⟩
  have hmade : made.Within (.upTo made.hub.watermark.height) :=
    within_run_upTo (.opened config (Nat.le_refl _) (Nat.le_refl _)) hbefore
  have hnow : now.Within (.upTo now.hub.watermark.height) :=
    within_run_upTo (within_step_upTo hmade fun _ _ => nofun) hafter
  obtain ⟨hcovered, hlow⟩ := hkeeps.watermark_le hin hauto
    (waiting_of_idle hfree (hkeeps.orderly hin).2 hinbox)
  refine ⟨hcovered, hlow.imp_left fun hle => ?_⟩
  have hhigh : x.best.height.toNat ≤ now.hub.watermark.height.toNat :=
    (hnow.clients slot x hx).2.best
  exact UInt32.toNat_inj.1 (Nat.le_antisymm hhigh hle)

def narrowSample : Connection :=
  (opened { BackendConfig.standard with clientBuffer := 1 } ⟨5, .zero⟩).step .newClient

/-- The client misses the second of three blocks and fetches it when the third one comes. -/
def overrun : List Action :=
  [.startClient 0, .push (.blockConnected ⟨6, .blank⟩), .push (.blockConnected ⟨7, .blank⟩),
    .handle 0, .push (.blockConnected ⟨8, .blank⟩), .handle 0, .answerClient 0 .sample]

theorem lost_block_is_made_up_for : ∃ x : Client,
    (narrowSample.run overrun).hub.clients[0]? = some x ∧
      narrowSample.trace (lostAt 0) overrun = [⟨7, .blank⟩] ∧ x.best.height.toNat = 8 := by
  have hanswers : ∀ h r, (h, r) ∈ narrowSample.trace (answersAt 0) overrun →
      ∃ block, r = .ok block := by
    have htrace : narrowSample.trace (answersAt 0) overrun = [(7, .ok .blank)] := rfl
    rw [htrace]
    intro h r hr
    cases List.mem_singleton.1 hr
    exact ⟨_, rfl⟩
  obtain ⟨x, hx, hlag⟩ := no_lag_without_a_lost_block
    { BackendConfig.standard with clientBuffer := 1 } ⟨5, .zero⟩ [] overrun rfl (by simp [overrun])
    hanswers
  have hlost : narrowSample.trace (lostAt 0) overrun = [⟨7, .blank⟩] := rfl
  have hidle : (narrowSample.run overrun).hub.clients[0]?.map
      (fun x => (x.registered, x.autoCatchUp, x.inbox, x.isBusy)) =
        some (true, true, [], false) := rfl
  obtain ⟨y, hy, hidle⟩ := Option.map_eq_some_iff.1 hidle
  obtain rfl : x = y := Option.some.inj (hx.symm.trans hy)
  simp only [Prod.mk.injEq] at hidle
  obtain ⟨_, hheight | ⟨b, hb, hstamp⟩⟩ := hlag hidle.1 hidle.2.1 hidle.2.2.1 hidle.2.2.2
  · exact ⟨x, hx, hlost, congrArg UInt32.toNat hheight⟩
  · obtain rfl : b = ⟨7, .blank⟩ := List.mem_singleton.1 hb
    exact absurd (congrArg Stamp.height hstamp) (by decide)

end Connection

end ChainFeed
