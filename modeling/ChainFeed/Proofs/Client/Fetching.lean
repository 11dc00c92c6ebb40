import ChainFeed.Proofs.Client.Stream

/-!
# The course of a catch-up

While blocks are being fetched for the subscriber, the fetch that is under way is the only thing
that bears on the best block and on what is told of blocks. Whatever else happens to the client
leaves its course alone, and each answer takes it one block further, breaks it off or ends it.
-/

namespace ChainFeed

/-- Whether a notification is about blocks: about one that has been applied, about a gap, or about
the end of a catch-up. -/
def Notification.isOfBlocks : Notification → Bool
  | .clientConnected _ | .relevantTransaction _ none => false
  | _ => true

namespace Client

def blockNews (c : Client) : List Notification := c.sent.filter Notification.isOfBlocks

/-- The second client stands where the first one does, with the same fetch under way. -/
structure SameCourse (c d : Client) : Prop where
  best : d.best = c.best
  catchUp : d.catchUp = c.catchUp
  blockNews : d.blockNews = c.blockNews

section
variable (c : Client)

theorem blockNews_notify {n : Notification} (hn : n.isOfBlocks = true) :
    (c.notify n).blockNews = c.blockNews ++ [n] := by
  rw [blockNews, notify, List.filter_append, List.filter_cons_of_pos hn, List.filter_nil, blockNews]

theorem blockNews_notify_other {n : Notification} (hn : n.isOfBlocks = false) :
    (c.notify n).blockNews = c.blockNews := by
  rw [blockNews, notify, List.filter_append, List.filter_cons_of_neg (by simp [hn]),
    List.filter_nil, List.append_nil, blockNews]

/-- All that is told of a block is about blocks. -/
theorem blockNews_applied (b : PlacedBlock) :
    (c.applied b).blockNews = c.blockNews ++ c.blockNotes b := by
  have hnotes : (c.blockNotes b).filter Notification.isOfBlocks = c.blockNotes b := by
    refine List.filter_eq_self.2 fun n hn => ?_
    simp only [blockNotes, List.mem_append, List.mem_map, List.mem_singleton] at hn
    obtain (hn | ⟨t, _, rfl⟩) | rfl := hn
    · split at hn
      · rw [List.mem_singleton.1 hn]
        rfl
      · cases hn
    · rfl
    · rfl
  rw [blockNews, applied_sent, List.filter_append, hnotes, blockNews]

end

namespace SameCourse

variable {c d e : Client}

theorem of_eq (hbest : d.best = c.best) (hcatchUp : d.catchUp = c.catchUp)
    (hsent : d.sent = c.sent) : SameCourse c d :=
  ⟨hbest, hcatchUp, by rw [Client.blockNews, hsent, Client.blockNews]⟩

theorem refl (c : Client) : SameCourse c c := ⟨rfl, rfl, rfl⟩

theorem trans (hd : SameCourse c d) (he : SameCourse d e) : SameCourse c e :=
  ⟨he.best.trans hd.best, he.catchUp.trans hd.catchUp, he.blockNews.trans hd.blockNews⟩

theorem notify (c : Client) {n : Notification} (hn : n.isOfBlocks = false) :
    SameCourse c (c.notify n) :=
  ⟨rfl, rfl, c.blockNews_notify_other hn⟩

theorem receiveTransaction (c : Client) (t : Transaction) :
    SameCourse c (c.receiveTransaction t).1 := by
  by_cases ht : t.txid ∈ c.mirror
  · rw [receiveTransaction_of_mem ht]
    exact refl c
  · rw [receiveTransaction_of_not_mem ht]
    exact of_eq rfl rfl rfl

theorem handleAdded (c : Client) (t : Transaction) : SameCourse c (c.handleAdded t) := by
  by_cases ht : t.txid ∈ c.mirror
  · rw [handleAdded_of_mem ht]
    exact refl c
  · rw [handleAdded_of_not_mem ht]
    have hfollowed : SameCourse c
        { c with mirror := c.mirror.insert t.txid, watch := c.watch.follow t } :=
      of_eq rfl rfl rfl
    exact hfollowed.trans (notify _ rfl)

/-- The handler keeps a block until the fetch is over. -/
theorem handle (hu : c.catchUp.isSome = true) : SameCourse c c.handle := by
  refine handle_keep (P := SameCourse c) ?_ ?_ ?_ ?_ (refl c)
  · exact fun _ _ _ h => h.trans (of_eq rfl rfl rfl)
  · intro d b hidle h
    rw [← h.catchUp, hidle] at hu
    cases hu
  · exact fun t h => h.trans (handleAdded _ t)
  · exact fun _ h => h.trans (of_eq rfl rfl rfl)

end SameCourse

/-- The client waits for the block at `next`, on the way of its subscriber from `start` to
`target`. -/
structure WaitsFor (start : Stamp) (next target : Height) (c : Client) : Prop where
  catchUp : c.catchUp = some ⟨start, next, target, none⟩
  precedes : c.best.Precedes next
  next_le : next.toNat ≤ target.toNat
  start_le : start.height.toNat ≤ c.best.height.toNat

section
variable {c d : Client} {start : Stamp} {next target : Height}

theorem WaitsFor.congr (h : c.WaitsFor start next target) (hd : SameCourse c d) :
    d.WaitsFor start next target :=
  ⟨hd.catchUp.trans h.catchUp, hd.best ▸ h.precedes, h.next_le, hd.best ▸ h.start_le⟩

theorem WaitsFor.advance (h : c.WaitsFor start next target) (hlt : next.toNat < target.toNat)
    (block : Block) : ({ c.applied ⟨next, block⟩ with
      catchUp := some ⟨start, next + 1, target, none⟩ }).WaitsFor start (next + 1) target := by
  have hadd := Height.toNat_add_one hlt
  have hnext : next.toNat = c.best.height.toNat + 1 := h.precedes
  have hstart := h.start_le
  refine ⟨rfl, hadd, by omega, ?_⟩
  change start.height.toNat ≤ next.toNat
  omega

/-- What an answer makes of a catch-up of the subscriber. -/
theorem resumeCatchUp_cases (h : c.WaitsFor start next target) (hs : c.isStopped = false)
    (answer : Except Error Block) :
    (∃ e, answer = .error e ∧ c.resumeCatchUp answer = ({ c with catchUp := none }, some e)) ∨
    (∃ block, answer = .ok block ∧ next.toNat < target.toNat ∧ c.resumeCatchUp answer =
      ({ c.applied ⟨next, block⟩ with catchUp := some ⟨start, next + 1, target, none⟩ }, none)) ∨
    (∃ block, answer = .ok block ∧ next = target ∧ c.resumeCatchUp answer =
      (({ c.applied ⟨next, block⟩ with catchUp := none }).notify
        (.caughtUp start ⟨next, block.hash⟩), none)) := by
  cases answer with
  | error e => exact .inl ⟨e, rfl, resumeCatchUp_error h.catchUp e⟩
  | ok block =>
    have happly : c.resumeCatchUp (.ok block) =
        ((c.applied ⟨next, block⟩).advanceCatchUp ⟨start, next, target, none⟩, none) :=
      resumeCatchUp_of_precedes h.catchUp h.precedes
    by_cases hlast : next = target
    · refine .inr (.inr ⟨block, rfl, hlast, ?_⟩)
      have hlt : start.height < (c.applied ⟨next, block⟩).best.height := by
        have hnext : next.toNat = c.best.height.toNat + 1 := h.precedes
        have hstart := h.start_le
        rw [UInt32.lt_iff_toNat_lt, applied_best]
        change _ < next.toNat
        omega
      rw [happly, advanceCatchUp_of_last (.inl hlast)]
      obtain ⟨b, hb, _⟩ | ⟨_, hclose⟩ :=
        (c.applied ⟨next, block⟩).closeCatchUp_cases ⟨start, next, target, none⟩
      · cases hb
      · rw [hclose, settled, if_pos hlt]
        rfl
    · refine .inr (.inl ⟨block, rfl, Height.toNat_lt_of_ne h.next_le hlast, ?_⟩)
      have hrunning : (c.applied ⟨next, block⟩).isStopped = false := hs
      rw [happly, advanceCatchUp_of_not_last (u := ⟨start, next, target, none⟩) hlast hrunning]

/-- The subscriber's call begins to wait for the first missing block, or has nothing to do. -/
theorem startCatchUp_call_cases (hidle : c.catchUp = none) (hs : c.isStopped = false)
    (target : Height) :
    (c.best.height.toNat < target.toNat ∧
      (c.startCatchUp target none).WaitsFor c.best (c.best.height + 1) target ∧
      c.startCatchUp target none =
        { c with catchUp := some ⟨c.best, c.best.height + 1, target, none⟩ }) ∨
    (target.toNat ≤ c.best.height.toNat ∧ c.startCatchUp target none = c) := by
  by_cases hlt : c.best.height.toNat < target.toNat
  · have hadd := Height.toNat_add_one hlt
    have hstart : c.startCatchUp target none = _ := startCatchUp_of_lt hlt hs
    refine .inl ⟨hlt, ?_, hstart⟩
    rw [hstart]
    exact ⟨rfl, hadd, by omega, Nat.le_refl _⟩
  · obtain ⟨hlt', _⟩ | hnone := c.startCatchUp_none_cases target
    · exact absurd hlt' hlt
    · exact .inr ⟨by omega, by rw [hnone, ← hidle]⟩

end

end Client

end ChainFeed
