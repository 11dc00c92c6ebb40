import ChainFeed.Proofs.Client.Move

/-!
# The block stream of a client

The blocks that a subscriber is told of climb one height at a time from the best block at which the
client was made, and the best block is the last of them. Blocks come by the inbox, from a gap that
is being filled and from the subscriber's catch-up. The invariant that carries the stream through
all three is that a block being fetched is always the next one.
-/

namespace ChainFeed

def Notification.filteredStamp? : Notification → Option Stamp
  | filteredBlockConnected stamp _ => some stamp
  | _ => none

/-- The heights of a catch-up under way, read over the naturals: no step to them has wrapped. -/
structure CatchUp.Fits (u : CatchUp) (best : Stamp) : Prop where
  next : u.next.toNat = best.height.toNat + 1
  next_le_target : u.next.toNat ≤ u.target.toNat
  cause : ∀ b, u.cause = some b → b.height.toNat = u.target.toNat + 1

/-- The last of some consecutive heights lies as far above the base as there are of them. -/
theorem Stamp.height_getLast {base : Stamp} {l : List Stamp}
    (h : l.map (fun s => s.height.toNat) = List.range' (base.height.toNat + 1) l.length) :
    (l.getLast?.getD base).height.toNat = base.height.toNat + l.length := by
  rcases List.eq_nil_or_concat l with hl | ⟨earlier, s, hl⟩
  · simp [hl]
  · rw [hl] at h ⊢
    rw [List.concat_eq_append, List.map_append, List.length_append, List.length_singleton,
      List.range'_1_concat] at h
    have hlast := (List.append_inj' h rfl).2
    simp only [List.map_cons, List.map_nil, List.cons.injEq, and_true] at hlast
    simp only [List.concat_eq_append, List.getLast?_append, List.getLast?_singleton,
      Option.some_or, Option.getD_some, List.length_append, List.length_singleton, hlast]
    omega

namespace Client

/-- The blocks that the subscriber has been told of, in order. -/
def stream (c : Client) : List Stamp := c.sent.filterMap Notification.filteredStamp?

/-- The stream begins just above `base` and leaves out, repeats and reorders no height. -/
structure Gapless (base : Stamp) (c : Client) : Prop where
  heights : c.stream.map (fun s => s.height.toNat) =
    List.range' (base.height.toNat + 1) c.stream.length
  best : c.best = c.stream.getLast?.getD base

/-- A gapless stream, and nothing under way but the block that comes next. -/
structure Steady (base : Stamp) (c : Client) : Prop where
  gapless : c.Gapless base
  fits : ∀ u, c.catchUp = some u → u.Fits c.best

theorem stream_blockNotes (c : Client) (b : PlacedBlock) :
    (c.blockNotes b).filterMap Notification.filteredStamp? = [b.stamp] := by
  have hrel (l : List Transaction) :
      (l.map fun t => Notification.relevantTransaction t (some b.stamp)).filterMap
        Notification.filteredStamp? = [] := by
    rw [List.filterMap_eq_nil_iff]
    intro n hn
    obtain ⟨t, _, rfl⟩ := List.mem_map.1 hn
    rfl
  rw [blockNotes, List.filterMap_append, List.filterMap_append, hrel]
  split <;> rfl

theorem stream_applied (c : Client) (b : PlacedBlock) :
    (c.applied b).stream = c.stream ++ [b.stamp] := by
  rw [stream, applied_sent, List.filterMap_append, stream_blockNotes, stream]

theorem stream_notify {n : Notification} (c : Client) (hn : n.filteredStamp? = none) :
    (c.notify n).stream = c.stream := by
  rw [stream, notify, List.filterMap_append, List.filterMap_cons_none hn, List.filterMap_nil,
    List.append_nil, stream]

section
variable {base : Stamp} {c : Client}

namespace Gapless

/-- The best block lies as far above the base as blocks have been told of. -/
theorem height_best (h : c.Gapless base) :
    c.best.height.toNat = base.height.toNat + c.stream.length := by
  rw [h.best]
  exact Stamp.height_getLast h.heights

theorem congr {d : Client} (h : c.Gapless base) (hs : d.stream = c.stream)
    (hb : d.best = c.best) : d.Gapless base :=
  ⟨by rw [hs, h.heights], by rw [hb, hs, h.best]⟩

theorem applied {b : PlacedBlock} (h : c.Gapless base) (hp : c.best.Precedes b.height) :
    (c.applied b).Gapless base := by
  have hheight : b.height.toNat = base.height.toNat + 1 + c.stream.length := by
    have hnext : b.height.toNat = c.best.height.toNat + 1 := hp
    have hbest := h.height_best
    omega
  constructor
  · rw [stream_applied, List.map_append, h.heights, List.length_append, List.length_singleton,
      List.range'_1_concat, ← hheight]
    rfl
  · rw [stream_applied]
    simp

end Gapless

namespace Steady

theorem congr {d : Client} (h : c.Steady base) (hs : d.stream = c.stream) (hb : d.best = c.best)
    (hu : d.catchUp = c.catchUp) : d.Steady base :=
  ⟨h.gapless.congr hs hb, by rw [hu, hb]; exact h.fits⟩

theorem of_idle (h : c.Gapless base) (hu : c.catchUp = none) : c.Steady base :=
  ⟨h, by simp [hu]⟩

theorem new (id : ClientId) (network : Network) (auto : Bool) (size : Nat) (b : Bool) :
    { Client.new id network auto size base with registered := b }.Steady base :=
  of_idle ⟨rfl, rfl⟩ rfl

theorem gapless_settled (h : c.Gapless base) (u : CatchUp) : (c.settled u).Gapless base := by
  unfold Client.settled
  split
  · exact h.congr (stream_notify _ rfl) rfl
  · exact h.congr rfl rfl

theorem closeCatchUp (h : c.Gapless base) (u : CatchUp) : (c.closeCatchUp u).Steady base := by
  have hset := gapless_settled h u
  obtain ⟨b, _, hp, hc⟩ | ⟨_, hc⟩ := c.closeCatchUp_cases u
  · rw [hc]
    exact of_idle (hset.applied (by rwa [settled_best])) (by rw [applied_catchUp, settled_catchUp])
  · rw [hc]
    exact of_idle hset (c.settled_catchUp u)

theorem startCatchUp (h : c.Steady base) (target : Height) :
    (c.startCatchUp target none).Steady base := by
  obtain ⟨hlt, _, hc⟩ | hc := c.startCatchUp_none_cases target
  · rw [hc]
    refine ⟨h.gapless.congr rfl rfl, ?_⟩
    rintro _ ⟨⟩
    have hnext := Height.toNat_add_one hlt
    exact ⟨hnext, by dsimp only; omega, by rintro _ ⟨⟩⟩
  · rw [hc]
    exact of_idle (h.gapless.congr rfl rfl) rfl

theorem handleBlock (h : c.Steady base) (hidle : c.catchUp = none) (b : PlacedBlock) :
    (c.handleBlock b).Steady base := by
  have hgap : (c.notify (.heightGap c.best.height b.height)).Gapless base :=
    h.gapless.congr (stream_notify c rfl) rfl
  obtain ⟨hp, hc⟩ | ⟨_, hc⟩ | ⟨_, _, hc⟩ | ⟨hlt, _, _, hc⟩ := handleBlock_cases hidle b
  · rw [hc]
    exact of_idle (h.gapless.applied hp) hidle
  · rwa [hc]
  · rw [hc]
    exact of_idle hgap hidle
  · rw [hc]
    refine ⟨hgap.congr rfl rfl, ?_⟩
    rintro _ ⟨⟩
    have htarget : (b.height - 1).toNat = b.height.toNat - 1 := Height.toNat_sub_one (by omega)
    have hnext : (c.best.height + 1).toNat = c.best.height.toNat + 1 :=
      Height.toNat_add_one (t := b.height) (by omega)
    refine ⟨hnext, by dsimp only; omega, ?_⟩
    rintro _ ⟨⟩
    dsimp only
    omega

theorem advanceCatchUp {u : CatchUp} (h : c.Gapless base)
    (hnext : u.next.toNat = c.best.height.toNat) (hle : u.next.toNat ≤ u.target.toNat)
    (hcause : ∀ b, u.cause = some b → b.height.toNat = u.target.toNat + 1) :
    (c.advanceCatchUp u).Steady base := by
  by_cases hlast : u.next = u.target ∨ c.isStopped = true
  · rw [advanceCatchUp_of_last hlast]
    exact closeCatchUp h u
  · have hne : u.next ≠ u.target := fun he => hlast (.inl he)
    have hlt := Height.toNat_lt_of_ne hle hne
    rw [advanceCatchUp_of_not_last hne (by simpa using fun hs => hlast (.inr hs))]
    refine ⟨h.congr rfl rfl, ?_⟩
    rintro _ ⟨⟩
    have hadd := Height.toNat_add_one hlt
    exact ⟨by dsimp only; omega, by dsimp only; omega, hcause⟩

theorem resumeCatchUp (h : c.Steady base) (answer : Except Error Block) :
    (c.resumeCatchUp answer).1.Steady base := by
  cases hu : c.catchUp with
  | none =>
    rw [resumeCatchUp_of_none hu]
    exact h
  | some u =>
    have hfits := h.fits u hu
    cases answer with
    | error e =>
      rw [resumeCatchUp_error hu]
      exact of_idle (h.gapless.congr rfl rfl) rfl
    | ok block =>
      rw [resumeCatchUp_of_precedes hu hfits.next]
      exact advanceCatchUp (h.gapless.applied hfits.next) rfl hfits.next_le_target hfits.cause

theorem handleAdded (h : c.Steady base) (t : Transaction) : (c.handleAdded t).Steady base := by
  by_cases ht : t.txid ∈ c.mirror
  · rwa [handleAdded_of_mem ht]
  · rw [handleAdded_of_not_mem ht]
    exact h.congr (stream_notify _ rfl) rfl rfl

theorem receiveTransaction (h : c.Steady base) (t : Transaction) :
    (c.receiveTransaction t).1.Steady base := by
  by_cases ht : t.txid ∈ c.mirror
  · rwa [receiveTransaction_of_mem ht]
  · rw [receiveTransaction_of_not_mem ht]
    exact h.congr rfl rfl rfl

theorem move {given : Input} {d : Client} (hm : Move given c d) (h : c.Steady base) :
    d.Steady base := by
  cases hm with
  | start hp => exact h.congr (stream_notify _ rfl) rfl rfl
  | handle =>
    exact handle_keep (fun _ _ _ hd => hd.congr rfl rfl rfl)
      (fun b hidle hd => hd.handleBlock hidle b) (fun t hd => hd.handleAdded t)
      (fun _ hd => hd.congr rfl rfl rfl) h
  | catchUp target hu => exact h.startCatchUp target
  | resume u answer => exact h.resumeCatchUp answer
  | _ => exact h.congr rfl rfl rfl

end Steady

end

end Client

end ChainFeed
