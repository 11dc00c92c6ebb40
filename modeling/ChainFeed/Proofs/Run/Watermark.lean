import ChainFeed.Proofs.Run.Within

/-!
# The watermark and the best blocks

Over a run the watermark is raised by each block that is handed out above it and by nothing else. A
best block only rises, by one height at a time, and stays at the watermark or below. Nothing is
asked of the blocks: they may be of any height, and the node may fail at any time.
-/

namespace ChainFeed

open Client

namespace Stamp

/-- The watermark is either left alone or raised to a greater height. -/
theorem raisedTo_eq_or_lt (w s : Stamp) :
    w.raisedTo s = w ∨ w.height.toNat < (w.raisedTo s).height.toNat := by
  by_cases h : w.isBelow s = true
  · right
    rw [raisedTo, if_pos h]
    exact isBelow_iff.1 h
  · left
    rw [raisedTo, if_neg h]

theorem foldl_raisedTo_eq_or_lt (w : Stamp) (l : List Stamp) :
    l.foldl raisedTo w = w ∨ w.height.toNat < (l.foldl raisedTo w).height.toNat := by
  induction l generalizing w with
  | nil => exact .inl rfl
  | cons s rest ih =>
    rw [List.foldl_cons]
    rcases w.raisedTo_eq_or_lt s with hs | hs
    · rw [hs]
      exact ih w
    · right
      rcases ih (w.raisedTo s) with hrest | hrest
      · rwa [hrest]
      · exact Nat.lt_trans hs hrest

end Stamp

/-- No move lets the best block fall. -/
theorem Client.BlockMove.best_le {given : Input} {c d : Client} (hm : BlockMove given c d) :
    c.best.height.toNat ≤ d.best.height.toNat := by
  have hbest {v : BlockView} (hd : d.blocks = v) : d.best = v.best := congrArg BlockView.best hd
  cases hm with
  | applied b _ _ _ hnext hd =>
    have hheight : b.height.toNat = c.best.height.toNat + 1 := hnext
    rw [hbest hd]
    change c.best.height.toNat ≤ b.height.toNat
    omega
  | fetched u block _ hfits _ _ hd =>
    have hnext := hfits.next
    rw [hbest hd]
    change c.best.height.toNat ≤ u.next.toNat
    omega
  | closed u block _ _ hfits _ _ _ hd =>
    have hnext := hfits.next
    rw [hbest hd]
    change c.best.height.toNat ≤ u.next.toNat
    omega
  | filled u block b _ _ _ _ hfits hcause hd =>
    have hnext := hfits.next
    have hle := hfits.next_le_target
    have hb := hfits.cause b hcause
    rw [hbest hd]
    change c.best.height.toNat ≤ b.height.toNat
    omega
  | same hd => rw [hbest hd]; exact Nat.le_refl _
  | lost _ _ _ hd => rw [hbest hd]; exact Nat.le_refl _
  | delivered _ _ hd => rw [hbest hd]; exact Nat.le_refl _
  | passed _ _ _ _ hd => rw [hbest hd]; exact Nat.le_refl _
  | gapLeft _ _ _ _ _ hd => rw [hbest hd]; exact Nat.le_refl _
  | gapFetched _ _ _ _ _ hd => rw [hbest hd]; exact Nat.le_refl _
  | setOut _ _ _ _ hd => rw [hbest hd]; exact Nat.le_refl _
  | broken _ _ _ _ _ _ hd => rw [hbest hd]; exact Nat.le_refl _

namespace Connection

/-- The watermark after a run is raised by the blocks that the run hands out, in order. -/
theorem watermark_run (c : Connection) (actions : List Action) : (c.run actions).hub.watermark =
    ((c.blocks actions).map PlacedBlock.stamp).foldl Stamp.raisedTo c.hub.watermark := by
  induction actions generalizing c with
  | nil => rfl
  | cons a rest ih =>
    have hstep : (c.step a).hub.watermark =
        ((c.blocksAt a).map PlacedBlock.stamp).foldl Stamp.raisedTo c.hub.watermark := by
      rcases c.watermark_step a with ⟨hblocks, hw⟩ | ⟨b, hblocks, hw⟩
      · rw [hw, hblocks]
        rfl
      · rw [hw, hblocks]
        rfl
    have hblocks : c.blocks (a :: rest) = c.blocksAt a ++ (c.step a).blocks rest := rfl
    rw [run_cons, ih, hstep, hblocks, List.map_append, List.foldl_append]

theorem best_le_run {c : Connection} {slot : Nat} {x : Client} {base : Stamp}
    (hx : c.hub.clients[slot]? = some x) (hsteady : x.Steady base) {actions : List Action}
    (hpast : ∀ b, .receiveBlock slot b ∉ actions) :
    ∃ y, (c.run actions).hub.clients[slot]? = some y ∧
      x.best.height.toNat ≤ y.best.height.toNat := by
  let P (z : Client) : Prop := z.Steady base ∧ x.best.height.toNat ≤ z.best.height.toNat
  have hmove {given : Input} {z w : Client} (hm : Move given z w) (hz : P z) : P w :=
    ⟨hz.1.move hm, Nat.le_trans hz.2 (hm.blockMove hz.1).best_le⟩
  have hreceive {z : Client} (t : Transaction) (hz : P z) : P (z.receiveTransaction t).1 := by
    refine ⟨hz.1.receiveTransaction t, ?_⟩
    have hbest : (z.receiveTransaction t).1.best = z.best :=
      congrArg BlockView.best (z.blocks_receiveTransaction t)
    rw [hbest]
    exact hz.2
  obtain ⟨y, hy, _, hle⟩ := run_keep slot c (P := P) hmove
    (fun _ hz => ⟨hz.1.congr rfl rfl rfl, hz.2⟩) (fun _ hz => ⟨hz.1.congr rfl rfl rfl, hz.2⟩)
    hreceive actions hpast hx ⟨hsteady, Nat.le_refl _⟩
  exact ⟨y, hy, hle⟩

/-- From any moment of a run to a later one: the watermark is raised to the blocks that are handed
out in between, so its height does not fall, and it becomes another block only at a greater height.
No best block falls. At the end no client stands above the watermark. -/
theorem watermark_bounds_best_blocks (config : BackendConfig) (best : Stamp)
    (before after : List Action) (hpast : ∀ slot b, .receiveBlock slot b ∉ before ++ after) :
    let c := (opened config best).run before
    let now := c.run after
    now.hub.watermark =
        ((c.blocks after).map PlacedBlock.stamp).foldl Stamp.raisedTo c.hub.watermark ∧
      c.hub.watermark.height ≤ now.hub.watermark.height ∧
      (now.hub.watermark.hash ≠ c.hub.watermark.hash →
        c.hub.watermark.height < now.hub.watermark.height) ∧
      (∀ (slot : Nat) (x : Client), c.hub.clients[slot]? = some x →
        ∃ y, now.hub.clients[slot]? = some y ∧ x.best.height ≤ y.best.height) ∧
      ∀ y ∈ now.hub.clients, y.best.height ≤ now.hub.watermark.height := by
  intro c now
  have hbefore : ∀ slot b, .receiveBlock slot b ∉ before :=
    fun slot b hb => hpast slot b (List.mem_append_left _ hb)
  have hafter : ∀ slot b, .receiveBlock slot b ∉ after :=
    fun slot b hb => hpast slot b (List.mem_append_right _ hb)
  have hc : c.Within (.upTo c.hub.watermark.height) :=
    within_run_upTo (.opened config (Nat.le_refl _) (Nat.le_refl _)) hbefore
  have hnow : now.Within (.upTo now.hub.watermark.height) := within_run_upTo hc hafter
  have hw := c.watermark_run after
  have hraised : now.hub.watermark = c.hub.watermark ∨
      c.hub.watermark.height.toNat < now.hub.watermark.height.toNat := by
    rw [hw]
    exact Stamp.foldl_raisedTo_eq_or_lt _ _
  refine ⟨hw, ?_, ?_, ?_, ?_⟩
  · rw [UInt32.le_iff_toNat_le]
    rcases hraised with heq | hlt
    · exact Nat.le_of_eq (congrArg (fun s : Stamp => s.height.toNat) heq.symm)
    · exact Nat.le_of_lt hlt
  · intro hhash
    rw [UInt32.lt_iff_toNat_lt]
    apply hraised.resolve_left
    intro heq
    exact hhash (congrArg Stamp.hash heq)
  · intro slot x hx
    obtain ⟨⟨base, hsteady⟩, _⟩ := hc.clients slot x hx
    obtain ⟨y, hy, hle⟩ := best_le_run hx hsteady (hafter slot)
    exact ⟨y, hy, UInt32.le_iff_toNat_le.2 hle⟩
  · intro y hmem
    obtain ⟨slot, hy⟩ := List.mem_iff_getElem?.1 hmem
    exact UInt32.le_iff_toNat_le.2 (hnow.clients slot y hy).2.best

/-- A block comes from outside, two heights above the watermark. -/
def jump : List Action :=
  [.newClient, .startClient 0, .push (.blockConnected ⟨7, .blank⟩)]

/-- The client finds the gap, the node fails once, an old block comes from outside, and the
subscriber asks for what is missing. -/
def climb : List Action :=
  [.handle 0, .answerClient 0 .silent, .push (.blockConnected ⟨3, .blank⟩), .handle 0, .catchUp 0,
    .answerClient 0 .sample, .answerClient 0 .sample]

theorem client_climbs_to_jumped_watermark :
    let c := (opened .standard ⟨5, .zero⟩).run jump
    let now := c.run climb
    c.hub.watermark.height = 7 ∧ c.hub.watermark.height ≤ now.hub.watermark.height ∧
      ∃ y, now.hub.clients[0]? = some y ∧ y.best.height = 7 ∧
        y.best.height ≤ now.hub.watermark.height := by
  intro c now
  have hpast : ∀ slot b, .receiveBlock slot b ∉ jump ++ climb := by
    simp [jump, climb]
  obtain ⟨_, hle, _, _, hbound⟩ :=
    watermark_bounds_best_blocks .standard ⟨5, .zero⟩ jump climb hpast
  have hjump : c.hub.watermark.height = 7 := by decide +kernel
  have hbest : now.hub.clients[0]?.map (fun y => y.best.height) = some 7 := by decide +kernel
  obtain ⟨y, hy, hseven⟩ := Option.map_eq_some_iff.1 hbest
  exact ⟨hjump, hle, y, hy, hseven, hbound y (List.mem_of_getElem? hy)⟩

end Connection

end ChainFeed
