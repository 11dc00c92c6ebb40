import ChainFeed.Proofs.Client.Applying

/-!
# What work on blocks leaves alone

Blocks that are applied, gaps that are found and blocks that are fetched change the best block, the
watch-list and the mirror, and are told of. They do not touch the place of the client in the
fan-out, its settings, the events that wait, or what has been told of the mempool.
-/

namespace ChainFeed

def Notification.unconfirmed? : Notification → Option Transaction
  | .relevantTransaction t none => some t
  | _ => none

namespace Client

def unconfirmed (c : Client) : List Transaction := c.sent.filterMap Notification.unconfirmed?

theorem unconfirmed_notify {n : Notification} (c : Client) (hn : n.unconfirmed? = none) :
    (c.notify n).unconfirmed = c.unconfirmed := by
  rw [unconfirmed, notify, List.filterMap_append, List.filterMap_cons_none hn, List.filterMap_nil,
    List.append_nil, unconfirmed]

theorem unconfirmed_applied (c : Client) (b : PlacedBlock) :
    (c.applied b).unconfirmed = c.unconfirmed := by
  have hrel (l : List Transaction) :
      (l.map fun t => Notification.relevantTransaction t (some b.stamp)).filterMap
        Notification.unconfirmed? = [] := by
    rw [List.filterMap_eq_nil_iff]
    intro n hn
    obtain ⟨t, _, rfl⟩ := List.mem_map.1 hn
    rfl
  have hnotes : (c.blockNotes b).filterMap Notification.unconfirmed? = [] := by
    rw [blockNotes, List.filterMap_append, List.filterMap_append, hrel]
    split <;> rfl
  rw [unconfirmed, applied_sent, List.filterMap_append, hnotes, List.append_nil, unconfirmed]

structure Frame (c d : Client) : Prop where
  registered : d.registered = c.registered
  phase : d.phase = c.phase
  autoCatchUp : d.autoCatchUp = c.autoCatchUp
  last : d.last = c.last
  inbox : d.inbox = c.inbox
  unconfirmed : d.unconfirmed = c.unconfirmed

namespace Frame

variable {c d e : Client}

theorem refl (c : Client) : Frame c c := ⟨rfl, rfl, rfl, rfl, rfl, rfl⟩

theorem trans (hd : Frame c d) (he : Frame d e) : Frame c e :=
  ⟨he.registered.trans hd.registered, he.phase.trans hd.phase,
    he.autoCatchUp.trans hd.autoCatchUp, he.last.trans hd.last, he.inbox.trans hd.inbox,
    he.unconfirmed.trans hd.unconfirmed⟩

theorem applied (c : Client) (b : PlacedBlock) : Frame c (c.applied b) :=
  ⟨rfl, rfl, rfl, rfl, rfl, c.unconfirmed_applied b⟩

theorem keptByFetching (c : Client) : KeptByFetching (Frame c) where
  catchUp _ h := h.trans ⟨rfl, rfl, rfl, rfl, rfl, rfl⟩
  caughtUp _ _ h := h.trans ⟨rfl, rfl, rfl, rfl, rfl, unconfirmed_notify _ rfl⟩
  gap _ _ h := h.trans ⟨rfl, rfl, rfl, rfl, rfl, unconfirmed_notify _ rfl⟩
  applied b h := h.trans (applied _ b)

theorem closeCatchUp (c : Client) (u : CatchUp) : Frame c (c.closeCatchUp u) :=
  (keptByFetching c).closeCatchUp (refl c) u

theorem startCatchUp (c : Client) (target : Height) (cause : Option PlacedBlock) :
    Frame c (c.startCatchUp target cause) :=
  (keptByFetching c).startCatchUp (refl c) target cause

theorem resumeCatchUp (c : Client) (answer : Except Error Block) :
    Frame c (c.resumeCatchUp answer).1 :=
  (keptByFetching c).resumeCatchUp (refl c) answer

theorem handleBlock (c : Client) (b : PlacedBlock) : Frame c (c.handleBlock b) :=
  (keptByFetching c).handleBlock (refl c) b

end Frame

end Client

end ChainFeed
