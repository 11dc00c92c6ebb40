import ChainFeed.Proofs.Run.BlockStep

/-!
# The walk of the block poller

As long as no block comes from elsewhere, the block poller hands out one height after the other from
just above the watermark. Whatever ends a tick leaves the watermark at the last block handed out, so
the next tick goes on from there. What carries this through a tick is that the poller is always at
the block just above the watermark.
-/

namespace ChainFeed

/-- A walk under way is at the block just above the watermark and not beyond its end. -/
def Hub.OnCourse (h : Hub) : Prop :=
  ∀ next last done, h.blockPoller = .walking next last done →
    h.watermark.Precedes next ∧ next.toNat ≤ last.toNat

theorem Hub.OnCourse.of_idle {h : Hub} (hidle : h.blockPoller = .idle) : h.OnCourse := by
  intro next last done hwalk
  rw [hidle] at hwalk
  cases hwalk

theorem Hub.Still.onCourse {h k : Hub} (hs : h.Still k) (hc : h.OnCourse) : k.OnCourse := by
  intro next last done hwalk
  rw [hs.watermark]
  exact hc next last done (hs.blockPoller ▸ hwalk)

namespace Connection

@[simp] theorem watermark_recordTick {α : Type} (r : Hub × Option (Except Error α)) :
    (recordTick r).watermark = r.1.watermark :=
  (still_recordTick r).watermark

@[simp] theorem blockPoller_recordTick {α : Type} (r : Hub × Option (Except Error α)) :
    (recordTick r).blockPoller = r.1.blockPoller :=
  (still_recordTick r).blockPoller

section
variable {c : Connection} {a : Action}

/-- One step hands out the block just above the watermark, which moves there, or no block. -/
theorem step_onCourse (hc : c.hub.OnCourse) (hpush : ∀ b, a ≠ .push (.blockConnected b)) :
    (c.step a).hub.OnCourse ∧
      ((c.blocksAt a = [] ∧ (c.step a).hub.watermark = c.hub.watermark) ∨
        ∃ b, c.blocksAt a = [b] ∧ c.hub.watermark.Precedes b.height ∧
          (c.step a).hub.watermark = b.stamp) := by
  cases c.block_step a with
  | rest hstill hblocks => exact ⟨hstill.onCourse hc, .inl ⟨hblocks, hstill.watermark⟩⟩
  | pushed b ha => exact absurd ha (hpush b)
  | begun _ _ hk hblocks =>
    refine ⟨?_, .inl ⟨hblocks, by rw [hk]⟩⟩
    rw [hk]
    rintro _ _ _ ⟨⟩
  | refused e _ hk hblocks =>
    rw [hk]
    exact ⟨.of_idle (blockPoller_recordTick _), .inl ⟨hblocks, watermark_recordTick _⟩⟩
  | satisfied best _ _ hk hblocks =>
    rw [hk]
    exact ⟨.of_idle rfl, .inl ⟨hblocks, rfl⟩⟩
  | setOut best _ _ hlt hk hblocks =>
    rw [hk]
    refine ⟨?_, .inl ⟨hblocks, rfl⟩⟩
    rintro _ _ _ ⟨⟩
    have hnext := Height.toNat_add_one hlt
    exact ⟨hnext, by omega⟩
  | failed _ _ _ e _ hk hblocks =>
    rw [hk]
    exact ⟨.of_idle (blockPoller_recordTick _), .inl ⟨hblocks, watermark_recordTick _⟩⟩
  | arrived next last done block hwalk _ hwatermark hblocks _ hend =>
    obtain ⟨hnext, hle⟩ := hc next last done hwalk
    have hraised : (c.step a).hub.watermark = ⟨next, block.hash⟩ := by
      rw [hwatermark, Stamp.raisedTo_of_precedes (s := ⟨next, block.hash⟩) hnext]
    refine ⟨?_, .inr ⟨⟨next, block⟩, hblocks, hnext, hraised⟩⟩
    obtain ⟨_, hidle, _⟩ | ⟨hne, _, hmore, _⟩ := hend
    · exact .of_idle hidle
    · intro next' last' done' hwalk'
      cases hmore.symm.trans hwalk'
      have hlt := Height.toNat_lt_of_ne hle hne
      have hadd := Height.toNat_add_one hlt
      rw [hraised]
      exact ⟨hadd, by omega⟩

end

theorem not_pushed_cons {a : Action} {rest : List Action}
    (h : ∀ b, .push (.blockConnected b) ∉ a :: rest) :
    (∀ b, a ≠ .push (.blockConnected b)) ∧ ∀ b, .push (.blockConnected b) ∉ rest := by
  constructor
  · rintro b rfl
    exact h b List.mem_cons_self
  · intro b hb
    exact h b (List.mem_cons_of_mem _ hb)

theorem blocks_cons_of_nil {c : Connection} {a : Action} (h : c.blocksAt a = [])
    (rest : List Action) : c.blocks (a :: rest) = (c.step a).blocks rest := by
  rw [blocks, trace_cons, h, List.nil_append]

theorem blocks_cons_of_singleton {c : Connection} {a : Action} {b : PlacedBlock}
    (h : c.blocksAt a = [b]) (rest : List Action) :
    c.blocks (a :: rest) = b :: (c.step a).blocks rest := by
  rw [blocks, trace_cons, h, List.singleton_append]

theorem bests_cons_of_nil {c : Connection} {a : Action} (h : c.bestsAt a = [])
    (rest : List Action) : c.bests (a :: rest) = (c.step a).bests rest := by
  rw [bests, trace_cons, h, List.nil_append]

theorem bests_cons_of_singleton {c : Connection} {a : Action} {s : Stamp}
    (h : c.bestsAt a = [s]) (rest : List Action) :
    c.bests (a :: rest) = s :: (c.step a).bests rest := by
  rw [bests, trace_cons, h, List.singleton_append]

/-- The blocks that a run hands out follow on the watermark one by one, and the watermark is at the
last of them. -/
theorem run_onCourse {c : Connection} (hc : c.hub.OnCourse) (actions : List Action)
    (hpush : ∀ b, .push (.blockConnected b) ∉ actions) :
    (c.run actions).hub.OnCourse ∧
      (c.blocks actions).map (fun b => b.height.toNat) =
        List.range' (c.hub.watermark.height.toNat + 1) (c.blocks actions).length ∧
      (c.run actions).hub.watermark =
        ((c.blocks actions).getLast?.map PlacedBlock.stamp).getD c.hub.watermark := by
  induction actions generalizing c with
  | nil => exact ⟨hc, rfl, rfl⟩
  | cons a rest ih =>
    obtain ⟨ha, hrest⟩ := not_pushed_cons hpush
    obtain ⟨hstep, hcase⟩ := step_onCourse hc ha
    obtain ⟨hcourse, hheights, hlast⟩ := ih hstep hrest
    refine ⟨hcourse, ?_⟩
    rw [run_cons, hlast]
    -- The watermark moves with the block that the first step hands out, and the rest follows on it.
    obtain ⟨hblocks, hw⟩ | ⟨b, hblocks, hnext, hw⟩ := hcase
    · rw [blocks_cons_of_nil hblocks, hheights, hw]
      exact ⟨rfl, rfl⟩
    · have hheight : b.height.toNat = c.hub.watermark.height.toNat + 1 := hnext
      rw [blocks_cons_of_singleton hblocks, List.map_cons, hheights, hw, List.length_cons,
        List.range'_succ, ← hheight, List.getLast?_cons]
      refine ⟨rfl, ?_⟩
      cases ((c.step a).blocks rest).getLast? <;> rfl

/-- The actions go on to the end of a tick of the block poller, which comes with the last one. -/
inductive TickEnds (r : Except Error Nat) : Connection → List Action → Prop where
  | last {c : Connection} {a : Action} (h : c.blockResult a = some r) : TickEnds r c [a]
  | more {c : Connection} {a : Action} {rest : List Action} (h : c.blockResult a = none)
      (ht : TickEnds r (c.step a) rest) : TickEnds r c (a :: rest)

section
variable {c : Connection} {a : Action}

/-- During a walk a step does nothing, breaks the walk off, or hands out a block, which ends the
walk or not. -/
theorem step_walking {next last : Height} {done : Nat} (hc : c.hub.OnCourse)
    (hwalk : c.hub.blockPoller = .walking next last done)
    (hpush : ∀ b, a ≠ .push (.blockConnected b)) :
    c.bestsAt a = [] ∧
      ((c.blocksAt a = [] ∧ c.blockResult a = none ∧
          (c.step a).hub.blockPoller = .walking next last done) ∨
        (∃ e, c.blocksAt a = [] ∧ c.blockResult a = some (.error e) ∧
          (c.step a).hub.blockPoller = .idle) ∨
        (∃ b, c.blocksAt a = [b] ∧ b.height = next ∧ c.blockResult a = some (.ok (done + 1)) ∧
          (c.step a).hub.blockPoller = .idle ∧
          ((c.step a).hub.shutdown = false → (c.step a).hub.watermark.height = last)) ∨
        (∃ b, c.blocksAt a = [b] ∧ c.hub.shutdown = false ∧ c.blockResult a = none ∧
          (c.step a).hub.blockPoller = .walking (next + 1) last (done + 1))) := by
  cases c.block_step a with
  | rest hstill hblocks hbests hresult =>
    exact ⟨hbests, .inl ⟨hblocks, hresult, hstill.blockPoller.trans hwalk⟩⟩
  | pushed b ha => exact absurd ha (hpush b)
  | failed _ _ _ e _ hk hblocks hbests hresult =>
    rw [hk]
    exact ⟨hbests, .inr (.inl ⟨e, hblocks, hresult, blockPoller_recordTick _⟩)⟩
  | arrived next' last' done' block hwalk' hshutdown hwatermark hblocks hbests hend =>
    cases hwalk.symm.trans hwalk'
    obtain ⟨hnext, _⟩ := hc next last done hwalk
    obtain ⟨hlast, hidle, hresult⟩ | ⟨_, hs, hmore, hresult⟩ := hend
    · refine ⟨hbests, .inr (.inr (.inl ⟨_, hblocks, rfl, hresult, hidle, fun hs => ?_⟩))⟩
      obtain rfl | hs' := hlast
      · rw [hwatermark, Stamp.raisedTo_of_precedes (s := ⟨next, block.hash⟩) hnext]
      · rw [hshutdown, hs'] at hs
        cases hs
    · exact ⟨hbests, .inr (.inr (.inr ⟨_, hblocks, hs, hresult, hmore⟩))⟩
  | begun hidle => cases hwalk.symm.trans hidle
  | refused _ hask => cases hwalk.symm.trans hask
  | satisfied _ hask => cases hwalk.symm.trans hask
  | setOut _ hask => cases hwalk.symm.trans hask

/-- Before a walk no block is handed out. The tick ends with nothing to do, breaks off, or sets out
for the best block of the node. -/
theorem step_not_walking (hwait : c.hub.blockPoller = .idle ∨ c.hub.blockPoller = .askingBest)
    (hpush : ∀ b, a ≠ .push (.blockConnected b)) :
    c.blocksAt a = [] ∧ (c.step a).hub.watermark = c.hub.watermark ∧
      ((c.bestsAt a = [] ∧ c.blockResult a = none ∧
          ((c.step a).hub.blockPoller = .idle ∨ (c.step a).hub.blockPoller = .askingBest)) ∨
        (∃ e, c.blockResult a = some (.error e) ∧ (c.step a).hub.blockPoller = .idle) ∨
        (∃ best, c.bestsAt a = [best] ∧ c.blockResult a = some (.ok 0) ∧
          (c.step a).hub.blockPoller = .idle ∧ ((c.step a).hub.shutdown = false →
            best.height.toNat ≤ c.hub.watermark.height.toNat)) ∨
        (∃ best, c.bestsAt a = [best] ∧ c.blockResult a = none ∧ c.hub.shutdown = false ∧
          c.hub.watermark.height.toNat < best.height.toNat ∧
          (c.step a).hub.blockPoller =
            .walking (c.hub.watermark.height + 1) best.height 0)) := by
  have hne : ∀ next last done, c.hub.blockPoller ≠ .walking next last done := by
    rintro next last done hwalk
    rw [hwalk] at hwait
    obtain h | h := hwait <;> cases h
  cases c.block_step a with
  | rest hstill hblocks hbests hresult =>
    refine ⟨hblocks, hstill.watermark, .inl ⟨hbests, hresult, ?_⟩⟩
    rwa [hstill.blockPoller]
  | pushed b ha => exact absurd ha (hpush b)
  | begun _ _ hk hblocks hbests hresult =>
    rw [hk]
    exact ⟨hblocks, rfl, .inl ⟨hbests, hresult, .inr rfl⟩⟩
  | refused e _ hk hblocks _ hresult =>
    rw [hk]
    exact ⟨hblocks, watermark_recordTick _,
      .inr (.inl ⟨e, hresult, blockPoller_recordTick _⟩)⟩
  | satisfied best _ hle hk hblocks hbests hresult =>
    rw [hk]
    exact ⟨hblocks, rfl, .inr (.inr (.inl ⟨best, hbests, hresult, rfl, hle⟩))⟩
  | setOut best _ hshutdown hlt hk hblocks hbests hresult =>
    rw [hk]
    exact ⟨hblocks, rfl, .inr (.inr (.inr ⟨best, hbests, hresult, hshutdown, hlt, rfl⟩))⟩
  | failed _ _ _ _ hwalk => exact absurd hwalk (hne _ _ _)
  | arrived _ _ _ _ hwalk => exact absurd hwalk (hne _ _ _)

end

section
variable {c : Connection} {actions : List Action} {n : Nat}

/-- The rest of a walk that comes to its end counts the blocks that it hands out. -/
theorem TickEnds.of_walking (ht : TickEnds (.ok n) c actions) {next last : Height} {done : Nat}
    (hc : c.hub.OnCourse) (hwalk : c.hub.blockPoller = .walking next last done)
    (hpush : ∀ b, .push (.blockConnected b) ∉ actions) :
    n = done + (c.blocks actions).length ∧ c.bests actions = [] ∧
      ((c.run actions).hub.shutdown = false → (c.run actions).hub.watermark.height = last) := by
  induction ht generalizing next done with
  | @last c a h =>
    obtain ⟨ha, _⟩ := not_pushed_cons hpush
    obtain ⟨hbests, hstep⟩ := step_walking hc hwalk ha
    rw [bests_cons_of_nil hbests]
    obtain ⟨_, h', _⟩ | ⟨e, _, h', _⟩ | ⟨b, hb, _, h', _, hw⟩ | ⟨b, _, _, h', _⟩ := hstep
    · cases h.symm.trans h'
    · cases h.symm.trans h'
    · cases h.symm.trans h'
      rw [blocks_cons_of_singleton hb]
      exact ⟨rfl, rfl, hw⟩
    · cases h.symm.trans h'
  | @more c a rest h ht ih =>
    obtain ⟨ha, hrest⟩ := not_pushed_cons hpush
    obtain ⟨hbests, hstep⟩ := step_walking hc hwalk ha
    have hcourse := (step_onCourse hc ha).1
    rw [bests_cons_of_nil hbests]
    obtain ⟨hb, _, hwalk'⟩ | ⟨e, _, h', _⟩ | ⟨b, _, _, h', _⟩ | ⟨b, hb, _, _, hwalk'⟩ := hstep
    · rw [blocks_cons_of_nil hb]
      exact ih hcourse hwalk' hrest
    · cases h.symm.trans h'
    · cases h.symm.trans h'
    · obtain ⟨hn, hrest'⟩ := ih hcourse hwalk' hrest
      rw [blocks_cons_of_singleton hb, List.length_cons]
      exact ⟨by omega, hrest'⟩

/-- A tick that comes to its end counts the blocks that it hands out. Without a shutdown it leaves
the watermark where it was or at the height of the node's best block, whichever is higher. -/
theorem TickEnds.of_not_walking (ht : TickEnds (.ok n) c actions)
    (hwait : c.hub.blockPoller = .idle ∨ c.hub.blockPoller = .askingBest)
    (hpush : ∀ b, .push (.blockConnected b) ∉ actions) :
    n = (c.blocks actions).length ∧ ((c.run actions).hub.shutdown = false →
      ∃ best, c.bests actions = [best] ∧ (c.run actions).hub.watermark.height.toNat =
        max c.hub.watermark.height.toNat best.height.toNat) := by
  induction ht with
  | @last c a h =>
    obtain ⟨ha, _⟩ := not_pushed_cons hpush
    obtain ⟨hb, hw, hstep⟩ := step_not_walking hwait ha
    rw [blocks_cons_of_nil hb]
    obtain ⟨_, h', _⟩ | ⟨e, h', _⟩ | ⟨best, hbests, h', _, hle⟩ | ⟨best, _, h', _⟩ := hstep
    · cases h.symm.trans h'
    · cases h.symm.trans h'
    · cases h.symm.trans h'
      refine ⟨rfl, fun hs => ⟨best, bests_cons_of_singleton hbests [], ?_⟩⟩
      have hle' := hle hs
      rw [run_cons, run_nil, hw]
      omega
    · cases h.symm.trans h'
  | @more c a rest h ht ih =>
    obtain ⟨ha, hrest⟩ := not_pushed_cons hpush
    obtain ⟨hb, hw, hstep⟩ := step_not_walking hwait ha
    rw [blocks_cons_of_nil hb]
    obtain ⟨hbests, _, hwait'⟩ | ⟨e, h', _⟩ | ⟨best, _, h', _⟩ |
      ⟨best, hbests, _, _, hlt, hwalk⟩ := hstep
    · rw [bests_cons_of_nil hbests, run_cons, ← hw]
      exact ih hwait' hrest
    · cases h.symm.trans h'
    · cases h.symm.trans h'
    · have hcourse : c.hub.OnCourse := by
        intro next last done hw'
        obtain hi | hi := hwait <;> cases hi.symm.trans hw'
      obtain ⟨hn, hbests', hlast⟩ :=
        ht.of_walking (step_onCourse hcourse ha).1 hwalk hrest
      refine ⟨by omega, fun hs => ⟨best, ?_, ?_⟩⟩
      · rw [bests_cons_of_singleton hbests, hbests']
      · rw [run_cons, hlast hs]
        omega

/-- After a shutdown no walk begins. -/
theorem blocks_of_shutdown (hs : c.hub.shutdown = true)
    (hwait : c.hub.blockPoller = .idle ∨ c.hub.blockPoller = .askingBest)
    (hpush : ∀ b, .push (.blockConnected b) ∉ actions) : c.blocks actions = [] := by
  induction actions generalizing c with
  | nil => rfl
  | cons a rest ih =>
    obtain ⟨ha, hrest⟩ := not_pushed_cons hpush
    have hs' := c.shutdown_step a hs
    obtain ⟨hb, _, hstep⟩ := step_not_walking hwait ha
    rw [blocks_cons_of_nil hb]
    obtain ⟨_, _, hwait'⟩ | ⟨e, _, hidle⟩ | ⟨best, _, _, hidle, _⟩ | ⟨best, _, _, h, _⟩ := hstep
    · exact ih hs' hwait' hrest
    · exact ih hs' (.inl hidle) hrest
    · exact ih hs' (.inl hidle) hrest
    · cases hs.symm.trans h

/-- After a shutdown only that block is still handed out whose fetch was under way. -/
theorem blocks_of_shutdown_walking {next last : Height} {done : Nat}
    (hs : c.hub.shutdown = true) (hc : c.hub.OnCourse)
    (hwalk : c.hub.blockPoller = .walking next last done)
    (hpush : ∀ b, .push (.blockConnected b) ∉ actions) :
    c.blocks actions = [] ∨ ∃ b, c.blocks actions = [b] ∧ b.height = next := by
  induction actions generalizing c with
  | nil => exact .inl rfl
  | cons a rest ih =>
    obtain ⟨ha, hrest⟩ := not_pushed_cons hpush
    have hs' := c.shutdown_step a hs
    obtain ⟨_, ⟨hb, _, hwalk'⟩ | ⟨e, hb, _, hidle⟩ | ⟨b, hb, hnext, _, hidle, _⟩ |
      ⟨b, _, h, _⟩⟩ := step_walking hc hwalk ha
    · rw [blocks_cons_of_nil hb]
      exact ih hs' (step_onCourse hc ha).1 hwalk' hrest
    · rw [blocks_cons_of_nil hb]
      exact .inl (blocks_of_shutdown hs' (.inl hidle) hrest)
    · rw [blocks_cons_of_singleton hb, blocks_of_shutdown hs' (.inl hidle) hrest]
      exact .inr ⟨b, rfl, hnext⟩
    · cases hs.symm.trans h

end

/-- With the block poller as the only source of blocks, a run hands out the heights just above the
first watermark, one after the other. At every moment `d` of the run the watermark is at the last
block handed out, a walk under way is at the height just above, and a block handed out goes to all
clients. A tick that comes to its end tells how many blocks it handed out, and reaches the node's
best block unless there is a shutdown. A tick that breaks off, like any other, leaves the watermark
at its last block. After a shutdown only a block is handed out that had been asked for before. -/
theorem block_poller_skips_and_repeats_nothing {c : Connection}
    (hidle : c.hub.blockPoller = .idle) (before after : List Action)
    (hpush : ∀ b, .push (.blockConnected b) ∉ before ++ after) :
    let d := c.run before
    (c.blocks before).map (fun b => b.height.toNat) =
        List.range' (c.hub.watermark.height.toNat + 1) (c.blocks before).length ∧
      d.hub.watermark = ((c.blocks before).getLast?.map PlacedBlock.stamp).getD c.hub.watermark ∧
      (∀ next last done, d.hub.blockPoller = .walking next last done →
        next.toNat = d.hub.watermark.height.toNat + 1 ∧ next.toNat ≤ last.toNat) ∧
      (∀ a b, (∀ b', a ≠ .push (.blockConnected b')) → b ∈ d.blocksAt a →
        (d.step a).hub.watermark = b.stamp ∧ (d.step a).hub.clients =
          d.hub.clients.map (Client.offer (fun _ => true) (.blockConnected b))) ∧
      (∀ a b (slot : Nat) (x y : Client), d.hub.clients[slot]? = some x →
        (d.step a).hub.clients[slot]? = some y → Event.blockConnected b ∈ y.inbox →
          Event.blockConnected b ∈ x.inbox ∨ b ∈ d.blocksAt a) ∧
      (∀ r, d.hub.blockPoller = .idle → TickEnds r d after →
        (d.run after).hub.watermark =
            ((d.blocks after).getLast?.map PlacedBlock.stamp).getD d.hub.watermark ∧
          ∀ n, r = .ok n → n = (d.blocks after).length ∧
            ((d.run after).hub.shutdown = false → ∃ best, d.bests after = [best] ∧
              (d.run after).hub.watermark.height.toNat =
                max d.hub.watermark.height.toNat best.height.toNat)) ∧
      (d.hub.shutdown = true → d.blocks after = [] ∨
        ∃ b last done, d.blocks after = [b] ∧ d.hub.blockPoller = .walking b.height last done) := by
  intro d
  have hbefore : ∀ b, .push (.blockConnected b) ∉ before :=
    fun b hb => hpush b (List.mem_append_left _ hb)
  have hafter : ∀ b, .push (.blockConnected b) ∉ after :=
    fun b hb => hpush b (List.mem_append_right _ hb)
  obtain ⟨hcourse, hheights, hwatermark⟩ := run_onCourse (.of_idle hidle) before hbefore
  refine ⟨hheights, hwatermark, hcourse, ?_, ?_, ?_, ?_⟩
  · intro a b ha hb
    refine ⟨?_, d.clients_of_mem_blocksAt hb⟩
    obtain ⟨_, ⟨hblocks, _⟩ | ⟨b', hblocks, _, hw⟩⟩ := step_onCourse hcourse ha
    · rw [hblocks] at hb
      cases hb
    · rw [hblocks] at hb
      rw [hw, List.mem_singleton.1 hb]
  · intro a b slot x y hx hy hb
    exact (mem_inbox_step slot d a hx hy hb).imp_right d.mem_blocksAt.2
  · intro r hd ht
    refine ⟨(run_onCourse hcourse after hafter).2.2, ?_⟩
    rintro n rfl
    exact ht.of_not_walking (.inl hd) hafter
  · intro hs
    cases hp : d.hub.blockPoller with
    | idle => exact .inl (blocks_of_shutdown hs (.inl hp) hafter)
    | askingBest => exact .inl (blocks_of_shutdown hs (.inr hp) hafter)
    | walking next last done =>
      obtain h | ⟨b, hb, rfl⟩ := blocks_of_shutdown_walking hs hcourse hp hafter
      · exact .inl h
      · exact .inr ⟨b, last, done, hb, rfl⟩

/-- A walk from 6 to 8 in which the second fetch fails. -/
def brokenWalk : List Action :=
  [.start, .tickBlocks, .answerBlockPoller .sample, .answerBlockPoller .sample,
    .answerBlockPoller .silent]

def resumedWalk : List Action :=
  [.tickBlocks, .answerBlockPoller .sample, .answerBlockPoller .sample, .answerBlockPoller .sample]

theorem block_poller_resumes_above_failure :
    let d := (opened .standard ⟨5, .zero⟩).run brokenWalk
    d.hub.watermark.height.toNat = 6 ∧ TickEnds (.ok 2) d resumedWalk ∧
      (d.blocks resumedWalk).length = 2 ∧
      (d.run resumedWalk).hub.watermark.height.toNat = 8 := by
  have hpush : ∀ b, .push (.blockConnected b) ∉ brokenWalk ++ resumedWalk := by
    simp [brokenWalk, resumedWalk]
  obtain ⟨_, hw, _, _, _, htick, _⟩ := block_poller_skips_and_repeats_nothing
    (c := opened .standard ⟨5, .zero⟩) rfl brokenWalk resumedWalk hpush
  have ht : TickEnds (.ok 2) ((opened .standard ⟨5, .zero⟩).run brokenWalk) resumedWalk :=
    .more rfl (.more rfl (.more rfl (.last rfl)))
  obtain ⟨_, hn⟩ := htick (.ok 2) rfl ht
  obtain ⟨hcount, hreach⟩ := hn 2 rfl
  obtain ⟨best, hbests, hmax⟩ := hreach rfl
  have hbest : ((opened .standard ⟨5, .zero⟩).run brokenWalk).bests resumedWalk =
      [⟨8, .zero⟩] := rfl
  obtain rfl : best = ⟨8, .zero⟩ := List.singleton_inj.1 (hbests.symm.trans hbest)
  refine ⟨?_, ht, hcount.symm, ?_⟩
  · exact congrArg (fun s => s.height.toNat) hw
  · exact hmax

end Connection

end ChainFeed
