import ChainFeed.Proofs.Run.BlockWalk
import ChainFeed.Proofs.Run.Deliveries

/-!
# No gap without a missed block

As long as blocks come from the block poller only, a client that misses none always has in hand the
blocks just below the watermark, up to and including it, and its best block is not below the first
of them by more than one. So the next block it takes is the one that it needs or one that it has
already, even if it was made in the middle of a walk or its subscriber has fetched blocks ahead.
-/

namespace ChainFeed

open Client

/-- The blocks in hand lead without a hole from the best block or below up to the watermark, and
nothing has opened a gap. -/
structure BlockView.InStep (watermark : Stamp) (v : BlockView) : Prop where
  heights : ∃ n, n ≤ v.best.height.toNat ∧ n + v.waiting.length = watermark.height.toNat ∧
    v.waiting.map (fun b => b.height.toNat) = List.range' (n + 1) v.waiting.length
  best : v.best.height.toNat ≤ watermark.height.toNat
  fetches : ∀ u, v.catchUp = some u → u.cause = none ∧ u.target.toNat ≤ watermark.height.toNat
  gaps : v.gaps = []

namespace BlockView.InStep

variable {watermark : Stamp} {v : BlockView}

/-- The first block in hand is the next one or below, and the others follow on it. -/
theorem first (h : v.InStep watermark) {b : PlacedBlock} {rest : List PlacedBlock}
    (hfirst : v.waiting = b :: rest) : b.height.toNat ≤ v.best.height.toNat + 1 ∧
      b.height.toNat ≤ watermark.height.toNat ∧
      b.height.toNat + rest.length = watermark.height.toNat ∧
      rest.map (fun b => b.height.toNat) = List.range' (b.height.toNat + 1) rest.length := by
  obtain ⟨n, hle, hcount, hheights⟩ := h.heights
  rw [hfirst, List.map_cons, List.length_cons, List.range'_succ, List.cons.injEq] at hheights
  rw [hfirst, List.length_cons] at hcount
  obtain ⟨hb, hrest⟩ := hheights
  exact ⟨by omega, by omega, by omega, by rw [hb, hrest]⟩

/-- The next block of the walk comes in. -/
theorem push (h : v.InStep watermark) {b : PlacedBlock} (hnext : watermark.Precedes b.height) :
    ({ v with waiting := v.waiting ++ [b] }).InStep b.stamp := by
  have hheight : b.height.toNat = watermark.height.toNat + 1 := hnext
  obtain ⟨n, hle, hcount, hheights⟩ := h.heights
  refine ⟨⟨n, hle, ?_, ?_⟩, ?_, fun u hu => ?_, h.gaps⟩
  · change n + (v.waiting ++ [b]).length = b.height.toNat
    rw [List.length_append, List.length_singleton]
    omega
  · change (v.waiting ++ [b]).map _ = List.range' (n + 1) (v.waiting ++ [b]).length
    rw [List.map_append, hheights, List.length_append, List.length_singleton,
      List.range'_1_concat, List.map_singleton]
    congr 2
    omega
  · change v.best.height.toNat ≤ b.height.toNat
    have hbest := h.best
    omega
  · obtain ⟨hcause, htarget⟩ := h.fetches u hu
    exact ⟨hcause, by change u.target.toNat ≤ b.height.toNat; omega⟩

end BlockView.InStep

/-- A client in the fan-out that no block comes to stays in step, if it asks for no block above the
watermark. -/
theorem Client.BlockMove.inStep {given : Input} {c d : Client} {watermark : Stamp}
    (hm : BlockMove given c d) (hin : d.registered = true) (hlast : c.last = none)
    (hevent : ∀ b, ¬ given.event (.blockConnected b))
    (htarget : ∀ t, given.target t → t.toNat ≤ watermark.height.toNat)
    (h : c.blocks.InStep watermark) : d.blocks.InStep watermark := by
  obtain ⟨n, hle, hcount, hheights⟩ := h.heights
  cases hm with
  | same hd => rwa [hd]
  | lost rest _ hout =>
    rw [hout hlast] at hin
    cases hin
  | delivered b hgiven => exact absurd hgiven (hevent b)
  | applied b rest _ hfirst _ hd =>
    obtain ⟨_, hbelow, hsum, hrest⟩ := h.first hfirst
    rw [hd]
    exact ⟨⟨b.height.toNat, Nat.le_refl _, hsum, hrest⟩, hbelow, h.fetches, h.gaps⟩
  | passed b rest hfirst hpassed hd =>
    obtain ⟨_, _, hsum, hrest⟩ := h.first hfirst
    rw [hd]
    exact ⟨⟨b.height.toNat, hpassed, hsum, hrest⟩, h.best, h.fetches, h.gaps⟩
  | gapLeft b rest hfirst hgap =>
    obtain ⟨hnext, _⟩ := h.first hfirst
    exact absurd hgap (Nat.not_lt.2 hnext)
  | gapFetched b rest _ hfirst hgap =>
    obtain ⟨hnext, _⟩ := h.first hfirst
    exact absurd hgap (Nat.not_lt.2 hnext)
  | setOut target hgiven _ _ hd =>
    rw [hd]
    refine ⟨h.heights, h.best, ?_, h.gaps⟩
    rintro _ ⟨⟩
    exact ⟨rfl, htarget target hgiven⟩
  | broken u e rest hu _ hrest hd =>
    rw [(h.fetches u hu).1] at hrest
    obtain rfl : c.waiting = rest := hrest
    rw [hd]
    exact ⟨h.heights, h.best, by rintro _ ⟨⟩, h.gaps⟩
  | fetched u block hu hfits _ _ hd =>
    have hnext := hfits.next
    have hlast := hfits.next_le_target
    obtain ⟨hcause, hbelow⟩ := h.fetches u hu
    rw [hd]
    refine ⟨⟨n, ?_, hcount, hheights⟩, ?_, ?_, h.gaps⟩
    · change n ≤ u.next.toNat
      have hbest : n ≤ c.best.height.toNat := hle
      omega
    · change u.next.toNat ≤ watermark.height.toNat
      omega
    · rintro _ ⟨⟩
      exact ⟨hcause, hbelow⟩
  | closed u block rest hu hfits _ _ hrest hd =>
    have hnext := hfits.next
    have hlast := hfits.next_le_target
    obtain ⟨hcause, hbelow⟩ := h.fetches u hu
    rw [hcause] at hrest
    obtain rfl : c.waiting = rest := hrest
    rw [hd]
    refine ⟨⟨n, ?_, hcount, hheights⟩, ?_, by rintro _ ⟨⟩, h.gaps⟩
    · change n ≤ u.next.toNat
      have hbest : n ≤ c.best.height.toNat := hle
      omega
    · change u.next.toNat ≤ watermark.height.toNat
      omega
  | filled u block b rest hu _ _ _ hcause =>
    rw [(h.fetches u hu).1] at hcause
    cases hcause

namespace Connection

/-- As long as the client is in the fan-out, it is in step with the watermark. -/
structure KeepsStep (base watermark : Stamp) (x : Client) : Prop extends x.InOrder base where
  inStep : x.registered = true → x.blocks.InStep watermark

namespace KeepsStep

variable {base watermark : Stamp} {x y : Client} {slot : Nat} {c : Connection}

theorem new (id : ClientId) (network : Network) (auto : Bool) (size : Nat) (base : Stamp) :
    KeepsStep base base { Client.new id network auto size base with registered := true } :=
  ⟨.new id network auto size base, fun _ =>
    ⟨⟨base.height.toNat, Nat.le_refl _, rfl, rfl⟩, Nat.le_refl _, (nofun), rfl⟩⟩

theorem of_place (h : KeepsStep base watermark x) (hplace : SamePlace x y)
    (hview : y.blocks = x.blocks) : KeepsStep base watermark y := by
  refine ⟨h.toInOrder.congr hplace hview, fun hin => ?_⟩
  rw [hview]
  exact h.inStep (hplace.registered ▸ hin)

theorem move {given : Input} (hevent : ∀ b, ¬ given.event (.blockConnected b))
    (htarget : ∀ t, given.target t → t.toNat ≤ watermark.height.toNat) (hm : Move given x y)
    (h : KeepsStep base watermark x) : KeepsStep base watermark y := by
  refine ⟨h.toInOrder.move hm, fun hin => ?_⟩
  have hin' : x.registered = true := (hm.samePlace hin).registered ▸ hin
  exact (hm.blockMove h.steady).inStep hin (h.orderly hin').2 hevent htarget (h.inStep hin')

theorem step {a : Action} (hcourse : c.hub.OnCourse) (hpush : ∀ b, a ≠ .push (.blockConnected b))
    (hpast : ∀ b, a ≠ .receiveBlock slot b) (hmissed : c.missedAt slot a = [])
    (hx : c.hub.clients[slot]? = some x) (hy : (c.step a).hub.clients[slot]? = some y)
    (h : KeepsStep base c.hub.watermark x) : KeepsStep base (c.step a).hub.watermark y := by
  obtain ⟨_, ⟨hnone, hw⟩ | ⟨b, hb, hnext, hw⟩⟩ := step_onCourse hcourse hpush
  · rw [hw]
    cases blockTurn_of_getElem? hpast hx hy with
    | offered b hblocks =>
      rw [hnone] at hblocks
      cases hblocks
    | moves _ hm =>
      refine hm.keep (P := KeepsStep base c.hub.watermark) (KeepsStep.move ?_ ?_) h
      · intro b hb
        have hmem := c.mem_blocksAt.2 hb
        rw [hnone] at hmem
        cases hmem
      · rintro _ ⟨_, rfl⟩
        exact Nat.le_refl _
    | aside _ hplace hview => exact h.of_place hplace hview
  · rw [hw]
    cases blockTurn_of_getElem? hpast hx hy with
    | offered b' hblocks hy =>
      obtain rfl : b = b' := List.singleton_inj.1 (hb.symm.trans hblocks)
      have hplace := SamePlace.offer (fun _ => true) (.blockConnected b) x
      rw [hy]
      refine ⟨h.toInOrder.offer _ _, fun hin => ?_⟩
      have hin' : x.registered = true := hplace.registered ▸ hin
      obtain ⟨_, _, ho⟩ | ⟨_, hmiss, _⟩ := accepted_or_missed hx h.orderly hin' hblocks
      · rw [ho]
        exact (h.inStep hin').push hnext
      · rw [hmissed] at hmiss
        cases hmiss
    | moves hblocks =>
      rw [hb] at hblocks
      cases hblocks
    | aside hblocks =>
      rw [hb] at hblocks
      cases hblocks

theorem run {actions : List Action} (hcourse : c.hub.OnCourse)
    (hpush : ∀ b, .push (.blockConnected b) ∉ actions)
    (hpast : ∀ b, .receiveBlock slot b ∉ actions) (hmissed : c.trace (missedAt slot) actions = [])
    (hx : c.hub.clients[slot]? = some x) (h : KeepsStep base c.hub.watermark x) :
    ∃ y, (c.run actions).hub.clients[slot]? = some y ∧
      KeepsStep base (c.run actions).hub.watermark y := by
  induction actions generalizing c x with
  | nil => exact ⟨x, hx, h⟩
  | cons a rest ih =>
    obtain ⟨ha, hrest⟩ := not_pushed_cons hpush
    rw [trace_cons, List.append_eq_nil_iff] at hmissed
    obtain ⟨y, hy, _⟩ := c.step_client slot a hx
    have hstep := h.step hcourse ha (fun b hb => hpast b (hb ▸ List.mem_cons_self)) hmissed.1 hx hy
    exact ih (step_onCourse hcourse ha).1 hrest (fun b hb => hpast b (List.mem_cons_of_mem _ hb))
      hmissed.2 hy hstep

end KeepsStep

/-- With the block poller as the only source of blocks, a client that has not left the fan-out and
has missed no block has at no moment of the run told of a gap or fetched a block to fill one. -/
theorem no_gap_without_a_missed_block (config : BackendConfig) (best : Stamp)
    (before after : List Action) (hopen : ((opened config best).run before).stopped = false)
    (hpush : ∀ b, .push (.blockConnected b) ∉ before ++ after)
    (hpast : ∀ b, .receiveBlock ((opened config best).run before).hub.clients.length b ∉ after) :
    let made := (opened config best).run before
    let slot := made.hub.clients.length
    let new := made.step .newClient
    new.trace (missedAt slot) after = [] →
    ∃ x, (new.run after).hub.clients[slot]? = some x ∧
      (x.registered = true → ∀ earlier later, after = earlier ++ later →
        ∃ y, (new.run earlier).hub.clients[slot]? = some y ∧ y.gaps = [] ∧
          ∀ u, y.catchUp = some u → u.cause = none) := by
  intro made slot new hmissed
  have hbefore : ∀ b, .push (.blockConnected b) ∉ before :=
    fun b hb => hpush b (List.mem_append_left _ hb)
  have hafter : ∀ b, .push (.blockConnected b) ∉ after :=
    fun b hb => hpush b (List.mem_append_right _ hb)
  have hcourse : made.hub.OnCourse :=
    (run_onCourse (c := opened config best) (.of_idle rfl) before hbefore).1
  obtain ⟨hcourse', ⟨_, hw⟩ | ⟨_, hb, _⟩⟩ :=
    step_onCourse hcourse (a := .newClient) (fun _ => nofun)
  swap
  · cases hb
  have hnew := made.newClient_client hopen
  have hstart := KeepsStep.new ⟨(made.allocated + 1).toUInt64⟩ made.config.network
    made.config.autoCatchUp made.config.clientBuffer.toNat made.hub.watermark
  rw [← hw] at hstart hnew
  obtain ⟨x, hx, _⟩ := hstart.run hcourse' hafter hpast hmissed hnew
  refine ⟨x, hx, ?_⟩
  rintro hin earlier later rfl
  rw [trace_append, List.append_eq_nil_iff] at hmissed
  have hearlier : ∀ b, .push (.blockConnected b) ∉ earlier :=
    fun b hb => hafter b (List.mem_append_left _ hb)
  obtain ⟨y, hy, hkeeps⟩ := hstart.run hcourse' hearlier
    (fun b hb => hpast b (List.mem_append_left _ hb)) hmissed.1 hnew
  rw [run_append] at hx
  have hstep := hkeeps.inStep (registered_of_run hy hx hin)
  exact ⟨y, hy, hstep.gaps, fun u hu => (hstep.fetches u hu).1⟩

/-- The first block of a walk from 6 to 8. -/
def walkBegun : List Action :=
  [.start, .tickBlocks, .answerBlockPoller .sample, .answerBlockPoller .sample]

/-- The second block waits while the subscriber fetches it, and is handled after it. -/
def overtaken : List Action :=
  [.answerBlockPoller .sample, .catchUp 0, .answerClient 0 .sample, .startClient 0, .handle 0,
    .answerBlockPoller .sample, .handle 0]

theorem overtaken_block_opens_no_gap : ∃ x : Client,
    ((((opened .standard ⟨5, .zero⟩).run walkBegun).step .newClient).run
      overtaken).hub.clients[0]? = some x ∧ x.gaps = [] ∧ x.best.height.toNat = 8 := by
  obtain ⟨x, hx, hgap⟩ := no_gap_without_a_missed_block .standard ⟨5, .zero⟩ walkBegun overtaken rfl
    (by simp [walkBegun, overtaken]) (by simp [overtaken]) rfl
  have hend : ((((opened .standard ⟨5, .zero⟩).run walkBegun).step .newClient).run
      overtaken).hub.clients[0]?.map (fun x => (x.registered, x.best.height.toNat)) =
        some (true, 8) := rfl
  obtain ⟨y, hy, hend⟩ := Option.map_eq_some_iff.1 hend
  obtain rfl : x = y := Option.some.inj (hx.symm.trans hy)
  rw [Prod.mk.injEq] at hend
  obtain ⟨z, hz, hgaps, _⟩ := hgap hend.1 overtaken [] (List.append_nil _).symm
  obtain rfl : x = z := Option.some.inj (hx.symm.trans hz)
  exact ⟨x, hx, hgaps, hend.2⟩

end Connection

end ChainFeed
