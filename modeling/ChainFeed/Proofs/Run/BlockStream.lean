import ChainFeed.Proofs.Client.Stream
import ChainFeed.Proofs.Run.BlockStep

/-!
# Block streams in a run

Whatever a connection goes through, each of its clients tells of a gapless stream of blocks. The
stream begins just above the watermark at which the client was made. Nothing is asked of the blocks
that are handed out, so the watermark and the walk of the poller may be anywhere; the heights in
them still never wrap.
-/

namespace ChainFeed

/-- The step to the height that a walk is at has not wrapped, and the walk is not beyond its end. -/
def Hub.Unwrapped (h : Hub) : Prop :=
  ∀ next last done, h.blockPoller = .walking next last done →
    0 < next.toNat ∧ next.toNat ≤ last.toNat

theorem Hub.Unwrapped.of_idle {h : Hub} (hidle : h.blockPoller = .idle) : h.Unwrapped := by
  intro next last done hwalk
  rw [hidle] at hwalk
  cases hwalk

theorem Hub.Unwrapped.congr {h k : Hub} (hh : h.Unwrapped) (hp : k.blockPoller = h.blockPoller) :
    k.Unwrapped :=
  fun next last done hwalk => hh next last done (hp ▸ hwalk)

namespace Connection

theorem unwrapped_step {c : Connection} (hc : c.hub.Unwrapped) (a : Action) :
    (c.step a).hub.Unwrapped := by
  cases c.block_step a with
  | rest hstill => exact hc.congr hstill.blockPoller
  | pushed _ _ hpoller => exact hc.congr hpoller
  | begun _ _ hk =>
    rw [hk]
    rintro _ _ _ ⟨⟩
  | refused e _ hk =>
    rw [hk]
    exact .of_idle (still_recordTick _).blockPoller
  | satisfied _ _ _ hk =>
    rw [hk]
    exact .of_idle rfl
  | setOut best _ _ hlt hk =>
    rw [hk]
    rintro _ _ _ ⟨⟩
    have hnext := Height.toNat_add_one hlt
    exact ⟨by omega, by omega⟩
  | failed _ _ _ e _ hk =>
    rw [hk]
    exact .of_idle (still_recordTick _).blockPoller
  | arrived next last done block hwalk _ _ _ _ hend =>
    obtain ⟨_, hidle, _⟩ | ⟨hne, _, hmore, _⟩ := hend
    · exact .of_idle hidle
    · intro next' last' done' hwalk'
      cases hmore.symm.trans hwalk'
      obtain ⟨_, hle⟩ := hc next last done hwalk
      have hlt := Height.toNat_lt_of_ne hle hne
      have hadd := Height.toNat_add_one hlt
      exact ⟨by omega, by omega⟩

theorem unwrapped_run {c : Connection} (hc : c.hub.Unwrapped) (actions : List Action) :
    (c.run actions).hub.Unwrapped := by
  induction actions generalizing c with
  | nil => exact hc
  | cons a rest ih => exact ih (unwrapped_step hc a)

/-- A client that no block is handed to past its inbox tells of every height above the watermark at
which it was made, one after the other, and its best block is the last that it has told of. What it
still fetches comes next, and no height has wrapped on the way. -/
theorem block_stream_is_gapless (config : BackendConfig) (best : Stamp)
    (before after : List Action) (hopen : ((opened config best).run before).stopped = false)
    (hpast : ∀ b, .receiveBlock ((opened config best).run before).hub.clients.length b ∉ after) :
    let made := (opened config best).run before
    let now := (made.step .newClient).run after
    ∃ x, now.hub.clients[made.hub.clients.length]? = some x ∧
      x.stream.map (fun s => s.height.toNat) =
        List.range' (made.hub.watermark.height.toNat + 1) x.stream.length ∧
      x.best = x.stream.getLast?.getD made.hub.watermark ∧
      (∀ u, x.catchUp = some u → u.next.toNat = x.best.height.toNat + 1 ∧
        u.next.toNat ≤ u.target.toNat ∧
        ∀ b, u.cause = some b → b.height.toNat = u.target.toNat + 1) ∧
      ∀ next last done, now.hub.blockPoller = .walking next last done →
        0 < next.toNat ∧ next.toNat ≤ last.toNat := by
  intro made now
  have hnew := made.newClient_client hopen
  have hsteady : Client.Steady made.hub.watermark _ := .new ⟨(made.allocated + 1).toUInt64⟩
    made.config.network made.config.autoCatchUp made.config.clientBuffer.toNat true
  obtain ⟨x, hx, hs⟩ := run_keep _ (made.step .newClient)
    (P := Client.Steady made.hub.watermark) (fun hm h => h.move hm)
    (fun _ h => h.congr rfl rfl rfl) (fun _ h => h.congr rfl rfl rfl)
    (fun t h => h.receiveTransaction t) after hpast hnew hsteady
  refine ⟨x, hx, hs.gapless.heights, hs.gapless.best, ?_, ?_⟩
  · intro u hu
    exact ⟨(hs.fits u hu).next, (hs.fits u hu).next_le_target, (hs.fits u hu).cause⟩
  · have hopened : (opened config best).hub.Unwrapped := .of_idle rfl
    exact unwrapped_run (unwrapped_step (unwrapped_run hopened before) .newClient) after

/-- A block that is two heights ahead, and the catch-up that it gives rise to. -/
def gapFilled : List Action :=
  [.startClient 0, .push (.blockConnected ⟨8, .blank⟩), .handle 0, .answerClient 0 .sample,
    .answerClient 0 .sample]

theorem gap_is_filled_in_order : ∃ x : Client,
    (((opened .standard ⟨5, .zero⟩).step .newClient).run gapFilled).hub.clients[0]? = some x ∧
      x.stream.map (fun s => s.height.toNat) = [6, 7, 8] ∧ x.best.height.toNat = 8 := by
  obtain ⟨x, hx, hheights, _⟩ := block_stream_is_gapless .standard ⟨5, .zero⟩ [] gapFilled
    rfl (by simp [gapFilled])
  refine ⟨x, hx, ?_⟩
  have hlength : (((opened .standard ⟨5, .zero⟩).step .newClient).run gapFilled).hub.clients[0]?.map
      (fun x => x.stream.length) = some 3 := rfl
  have hlast : (((opened .standard ⟨5, .zero⟩).step .newClient).run gapFilled).hub.clients[0]?.map
      (fun x => x.best.height.toNat) = some 8 := rfl
  have hx' : (((opened .standard ⟨5, .zero⟩).step .newClient).run gapFilled).hub.clients[0]? =
      some x := hx
  rw [hx', Option.map_some, Option.some.injEq] at hlength hlast
  rw [hlength] at hheights
  exact ⟨hheights, hlast⟩

end Connection

end ChainFeed
