import ChainFeed.Proofs.Chain.Height
import ChainFeed.Proofs.Run.BlockStream

/-!
# Heights never wrap

A catch-up goes up height by height from just above the best block at which it began to its target,
and one that a gap has caused ends just below the block that revealed it. So it holds in every run,
whatever is handed to the client past its inbox, that the heights still to be fetched are words that
have not wrapped, and a gap always leaves one to fetch.
-/

namespace ChainFeed

/-- The height to fetch lies above the best block of the beginning and not above the target, which
lies just below the block that caused the catch-up. -/
structure CatchUp.InRange (u : CatchUp) : Prop where
  start_lt_next : u.start.height.toNat < u.next.toNat
  next_le_target : u.next.toNat ≤ u.target.toNat
  cause : ∀ b, u.cause = some b → u.target.toNat + 1 = b.height.toNat

namespace Client

/-- What is being fetched is in range. -/
def Ranged (c : Client) : Prop := ∀ u, c.catchUp = some u → u.InRange

/-- The catch-up that a gap gives rise to begins with the height above the best block, which is not
above the height below the block. -/
theorem gap_range {c : Client} {b : PlacedBlock}
    (hgap : c.best.height.toNat + 1 < b.height.toNat) :
    (c.best.height + 1).toNat = c.best.height.toNat + 1 ∧
      (b.height - 1).toNat + 1 = b.height.toNat ∧
      CatchUp.InRange ⟨c.best, c.best.height + 1, b.height - 1, some b⟩ := by
  have hnext : (c.best.height + 1).toNat = c.best.height.toNat + 1 :=
    Height.toNat_add_one (t := b.height) (by omega)
  have htarget : (b.height - 1).toNat = b.height.toNat - 1 := Height.toNat_sub_one (by omega)
  refine ⟨hnext, by omega, by dsimp only; omega, by dsimp only; omega, ?_⟩
  rintro _ ⟨⟩
  dsimp only
  omega

/-- The handler of a running client that is set to sets out for the heights of a gap. -/
theorem catchUp_handleBlock_of_gap {c : Client} {b : PlacedBlock} (hidle : c.catchUp = none)
    (hgap : c.best.height.toNat + 1 < b.height.toNat) (hauto : c.autoCatchUp = true)
    (hrunning : c.isStopped = false) :
    (c.handleBlock b).catchUp = some ⟨c.best, c.best.height + 1, b.height - 1, some b⟩ := by
  obtain ⟨hnext, _⟩ | ⟨hle, _⟩ | ⟨_, hstopped, _⟩ | ⟨_, _, _, hc⟩ := handleBlock_cases hidle b
  · exact absurd hgap (Nat.not_lt.2 (Nat.le_of_eq hnext))
  · exact absurd hgap (by omega)
  · cases (hstopped hauto).symm.trans hrunning
  · rw [hc]

namespace Ranged

variable {c d : Client}

theorem of_idle (h : c.catchUp = none) : c.Ranged := by
  intro u hu
  cases h.symm.trans hu

theorem congr (h : c.Ranged) (hu : d.catchUp = c.catchUp) : d.Ranged :=
  fun u hd => h u (hu ▸ hd)

theorem startCatchUp (c : Client) (target : Height) : (c.startCatchUp target none).Ranged := by
  obtain ⟨hlt, _, hc⟩ | hc := c.startCatchUp_none_cases target
  · rw [hc]
    rintro _ ⟨⟩
    have hnext := Height.toNat_add_one hlt
    exact ⟨by dsimp only; omega, by dsimp only; omega, by rintro _ ⟨⟩⟩
  · rw [hc]
    exact of_idle rfl

theorem handleBlock (h : c.Ranged) (hidle : c.catchUp = none) (b : PlacedBlock) :
    (c.handleBlock b).Ranged := by
  obtain ⟨_, hc⟩ | ⟨_, hc⟩ | ⟨_, _, hc⟩ | ⟨hgap, _, _, hc⟩ := handleBlock_cases hidle b
  · rw [hc]
    exact of_idle hidle
  · rwa [hc]
  · rw [hc]
    exact of_idle hidle
  · rw [hc]
    rintro _ ⟨⟩
    exact (gap_range hgap).2.2

theorem advanceCatchUp {u : CatchUp} (hu : u.InRange) : (c.advanceCatchUp u).Ranged := by
  by_cases hlast : u.next = u.target ∨ c.isStopped = true
  · rw [advanceCatchUp_of_last hlast]
    exact of_idle (c.catchUp_closeCatchUp u)
  · have hne : u.next ≠ u.target := fun he => hlast (.inl he)
    have hlt := Height.toNat_lt_of_ne hu.next_le_target hne
    have hadd := Height.toNat_add_one hlt
    have hstart := hu.start_lt_next
    rw [advanceCatchUp_of_not_last hne (by simpa using fun hs => hlast (.inr hs))]
    rintro _ ⟨⟩
    exact ⟨by dsimp only; omega, by dsimp only; omega, hu.cause⟩

theorem resumeCatchUp (h : c.Ranged) (answer : Except Error Block) :
    (c.resumeCatchUp answer).1.Ranged := by
  cases hu : c.catchUp with
  | none => rwa [resumeCatchUp_of_none hu]
  | some u =>
    have hrange := h u hu
    cases answer with
    | error e =>
      rw [resumeCatchUp_error hu]
      exact of_idle rfl
    | ok block =>
      by_cases hp : c.best.Precedes u.next
      · rw [resumeCatchUp_of_precedes hu hp]
        exact advanceCatchUp hrange
      · have hcases : c.resumeCatchUp (.ok block) = _ ∨ c.resumeCatchUp (.ok block) = _ :=
          resumeCatchUp_of_not_precedes hu hp
        obtain heq | heq := hcases
        · rw [heq]
          exact advanceCatchUp hrange
        · rw [heq]
          exact of_idle rfl

theorem handleAdded (h : c.Ranged) (t : Transaction) : (c.handleAdded t).Ranged := by
  by_cases ht : t.txid ∈ c.mirror
  · rwa [handleAdded_of_mem ht]
  · rw [handleAdded_of_not_mem ht]
    exact h.congr rfl

theorem receiveTransaction (h : c.Ranged) (t : Transaction) : (c.receiveTransaction t).1.Ranged := by
  by_cases ht : t.txid ∈ c.mirror
  · rwa [receiveTransaction_of_mem ht]
  · rw [receiveTransaction_of_not_mem ht]
    exact h.congr rfl

theorem received (h : c.Ranged) (b : PlacedBlock) : (c.received b).Ranged := by
  by_cases hp : c.best.Precedes b.height
  · rw [received_of_precedes hp]
    exact h.congr rfl
  · rwa [received_of_not_precedes hp]

theorem move {given : Input} (hm : Move given c d) (h : c.Ranged) : d.Ranged := by
  cases hm with
  | handle =>
    exact handle_keep (fun _ _ _ hd => hd.congr rfl)
      (fun b hidle hd => hd.handleBlock hidle b) (fun t hd => hd.handleAdded t)
      (fun _ hd => hd.congr rfl) h
  | catchUp target => exact startCatchUp c target
  | resume u answer => exact h.resumeCatchUp answer
  | _ => exact h.congr rfl

end Ranged

end Client

namespace Connection

/-- No action brings a height out of range, not even a block that is handed past the inbox. -/
theorem ranged_step {c : Connection} {slot : Nat} {a : Action}
    (h : ∀ x, c.hub.clients[slot]? = some x → x.Ranged) {y : Client}
    (hy : (c.step a).hub.clients[slot]? = some y) : y.Ranged := by
  cases hx : c.hub.clients[slot]? with
  | none =>
    obtain ⟨_, _, _, rfl⟩ := newClient_of_free slot c hx hy
    exact .of_idle rfl
  | some x =>
    have hranged : x.Ranged := h x hx
    cases clientStep_of_getElem? hx hy with
    | moves _ hm => exact hm.keep (fun hm hz => hz.move hm) hranged
    | watchScript s => exact hranged.congr rfl
    | watchOutpoints l => exact hranged.congr rfl
    | receiveTransaction t => exact hranged.receiveTransaction t
    | receiveBlock b => exact hranged.received b

theorem ranged_run {c : Connection} {slot : Nat} {actions : List Action}
    (h : ∀ x, c.hub.clients[slot]? = some x → x.Ranged) :
    ∀ y, (c.run actions).hub.clients[slot]? = some y → y.Ranged := by
  induction actions generalizing c with
  | nil => exact h
  | cons a rest ih => exact ih fun _ hz => ranged_step h hz

/-- Every height is found to be next, ahead or behind as it lies over the naturals, and in one of
these ways only; the plan of a walk sees the same, and counts the heights in between. A gap leaves at
least one height to fetch: the height below its block is the number below, and the first height that
a running client then fetches is the number above its best block. Nor does a word wrap later on, in
any catch-up or walk of any run. -/
theorem heights_are_placed_alike :
    (∀ (s : Stamp) (incoming : Height), (∃! p, s.Finds incoming p) ∧
      (s.Finds incoming .next ↔ incoming.toNat = s.height.toNat + 1) ∧
      (s.Finds incoming .ahead ↔ s.height.toNat + 1 < incoming.toNat) ∧
      (s.Finds incoming .behind ↔ incoming.toNat ≤ s.height.toNat) ∧
      (Error.heightGap s.height incoming).isForwardGap =
        decide (s.height.nextOrGreatest < incoming)) ∧
    (∀ watermark best : Stamp, (Walk.plan watermark best = .upToDate ↔ best = watermark) ∧
      (Walk.plan watermark best = .diverged watermark best ↔
        best ≠ watermark ∧ best.height.toNat ≤ watermark.height.toNat) ∧
      ((∃ first, Walk.plan watermark best = .forward first best.height ∧
        first.toNat = watermark.height.toNat + 1) ↔
          watermark.height.toNat < best.height.toNat) ∧
      (Walk.plan watermark best).blockCount = best.height.toNat - watermark.height.toNat ∧
      (watermark.Finds best.height .behind ↔ (Walk.plan watermark best).blockCount = 0) ∧
      (watermark.Finds best.height .next ↔ (Walk.plan watermark best).blockCount = 1) ∧
      (watermark.Finds best.height .ahead ↔ 1 < (Walk.plan watermark best).blockCount)) ∧
    (∀ (c : Client) (b : PlacedBlock), c.best.Finds b.height .ahead →
      b.height.previousOrLeast = b.height - 1 ∧
      (b.height - 1).toNat + 1 = b.height.toNat ∧
      (c.best.height + 1).toNat = c.best.height.toNat + 1 ∧
      (c.best.height + 1).toNat ≤ (b.height - 1).toNat ∧
      (c.catchUp = none → c.autoCatchUp = true → c.isStopped = false →
        (c.handleBlock b).catchUp = some ⟨c.best, c.best.height + 1, b.height - 1, some b⟩)) ∧
    ∀ (config : BackendConfig) (best : Stamp) (actions : List Action),
      let now := (opened config best).run actions
      (∀ (slot : Nat) (x : Client) (u : CatchUp), now.hub.clients[slot]? = some x →
        x.catchUp = some u → u.InRange ∧
          (u.next ≠ u.target → (u.next + 1).toNat = u.next.toNat + 1)) ∧
      ∀ next last done, now.hub.blockPoller = .walking next last done →
        0 < next.toNat ∧ next.toNat ≤ last.toNat ∧
          (next ≠ last → (next + 1).toNat = next.toNat + 1) := by
  refine ⟨fun s incoming => ?_, fun watermark best => ?_, fun c b hahead => ?_, ?_⟩
  · exact ⟨s.existsUnique_finds incoming, Stamp.finds_next_iff, Stamp.finds_ahead_iff,
      Stamp.finds_behind_iff, Error.isForwardGap_heightGap s.height incoming⟩
  · refine ⟨Walk.plan_eq_upToDate_iff, Walk.plan_eq_diverged_iff, Walk.plan_eq_forward_iff,
      Walk.blockCount_plan watermark best, ?_⟩
    rw [Walk.blockCount_plan, Stamp.finds_behind_iff, Stamp.finds_next_iff, Stamp.finds_ahead_iff]
    omega
  · have hgap : c.best.height.toNat + 1 < b.height.toNat := Stamp.finds_ahead_iff.1 hahead
    have hpos : 0 < b.height.toNat := Nat.zero_lt_of_lt hgap
    obtain ⟨hnext, htarget, hrange⟩ := Client.gap_range hgap
    exact ⟨Height.previousOrLeast_eq hpos, htarget, hnext, hrange.next_le_target,
      fun hidle hauto hrunning => Client.catchUp_handleBlock_of_gap hidle hgap hauto hrunning⟩
  · intro config best actions now
    have hopened : (opened config best).hub.Unwrapped := .of_idle rfl
    refine ⟨fun slot x u hx hu => ?_, fun next last done hwalk => ?_⟩
    · have hnobody : ∀ y, (opened config best).hub.clients[slot]? = some y → y.Ranged :=
        fun _ hy => nomatch hy
      have hrange : u.InRange := ranged_run hnobody x hx u hu
      exact ⟨hrange, fun hne =>
        Height.toNat_add_one (Height.toNat_lt_of_ne hrange.next_le_target hne)⟩
    · obtain ⟨hpos, hle⟩ := unwrapped_run hopened actions next last done hwalk
      exact ⟨hpos, hle, fun hne => Height.toNat_add_one (Height.toNat_lt_of_ne hle hne)⟩

/-- A client at height 5 to which the block at height 8 is pushed. -/
def gapRevealed : List Action :=
  [.newClient, .startClient 0, .push (.blockConnected ⟨8, .blank⟩), .handle 0]

theorem gap_leaves_two_heights_to_fetch :
    let gap : CatchUp := ⟨⟨5, .zero⟩, 6, 7, some ⟨8, .blank⟩⟩
    let c := Client.new ⟨1⟩ .regtest true 4 ⟨5, .zero⟩
    c.best.Finds 8 .ahead ∧ (c.handleBlock ⟨8, .blank⟩).catchUp = some gap ∧
      (∃ x, ((opened .standard ⟨5, .zero⟩).run gapRevealed).hub.clients[0]? = some x ∧
        x.catchUp = some gap) ∧ gap.InRange ∧ ((6 : Height) + 1).toNat = 7 := by
  intro gap c
  obtain ⟨_, _, hgap, hrun⟩ := heights_are_placed_alike
  have hahead : c.best.Finds 8 .ahead := Stamp.finds_ahead_iff.2 (by decide)
  obtain ⟨_, _, _, _, hfetch⟩ := hgap c ⟨8, .blank⟩ hahead
  have hend : ((opened .standard ⟨5, .zero⟩).run gapRevealed).hub.clients[0]?.map
      Client.catchUp = some (some gap) := rfl
  obtain ⟨x, hx, hu⟩ := Option.map_eq_some_iff.1 hend
  obtain ⟨hrange, hnext⟩ := (hrun .standard ⟨5, .zero⟩ gapRevealed).1 0 x gap hx hu
  exact ⟨hahead, hfetch rfl rfl rfl, ⟨x, hx, hu⟩, hrange, hnext (by decide)⟩

end Connection

end ChainFeed
