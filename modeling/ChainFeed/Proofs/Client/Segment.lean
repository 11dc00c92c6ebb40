import ChainFeed.Proofs.Client.Stream

/-!
# The segments of a stream

What a subscriber is told comes in segments. A block is one: its announcement where it is asked for,
its relevant transactions, and all of them together, with nothing in between. Every other
notification is a segment of its own. A catch-up is told as done just when the blocks since the one
that it set out from reach up to the best block.
-/

namespace ChainFeed

/-- What is told at once. -/
inductive Segment where
  | clientConnected (best : Stamp)
  | block (announced : Bool) (stamp : Stamp) (relevant : List Transaction)
  | transaction (tx : Transaction)
  | heightGap (best incoming : Height)
  | caughtUp (start best : Stamp)

namespace Segment

def notes : Segment → List Notification
  | clientConnected best => [.clientConnected best]
  | block announced stamp relevant =>
    (if announced then [.blockConnected stamp] else []) ++
      relevant.map (fun t => .relevantTransaction t (some stamp)) ++
      [.filteredBlockConnected stamp relevant]
  | transaction tx => [.relevantTransaction tx none]
  | heightGap best incoming => [.heightGap best incoming]
  | caughtUp start best => [.caughtUp start best]

def stamp? : Segment → Option Stamp
  | block _ stamp _ => some stamp
  | _ => none

def stamps (l : List Segment) : List Stamp := l.filterMap stamp?

/-- The segment announces its block, if it is one, exactly if that is asked for. -/
def Obeys (asked : Prop) : Segment → Prop
  | block announced _ _ => announced = true ↔ asked
  | _ => True

/-- What a segment says is true where it comes after the blocks `before`, on top of `base`. A gap
leaves out a height at least. A catch-up is done with exactly the blocks above the one that it set
out from, which was the best block once. -/
def IsSound (base : Stamp) (before : List Stamp) : Segment → Prop
  | heightGap best incoming => best.toNat + 1 < incoming.toNat
  | caughtUp start best => ∃ earlier groups, before = earlier ++ groups ∧
      start = earlier.getLast?.getD base ∧ groups.getLast? = some best ∧
      groups.map (fun s => s.height.toNat) =
        List.range' (start.height.toNat + 1) (best.height.toNat - start.height.toNat)
  | _ => True

theorem filterMap_notes (s : Segment) :
    s.notes.filterMap Notification.filteredStamp? = s.stamp?.toList := by
  cases s with
  | block announced stamp relevant =>
    have hrel : (relevant.map fun t => Notification.relevantTransaction t (some stamp)).filterMap
        Notification.filteredStamp? = [] := by
      rw [List.filterMap_eq_nil_iff]
      intro n hn
      obtain ⟨t, _, rfl⟩ := List.mem_map.1 hn
      rfl
    rw [notes, List.filterMap_append, List.filterMap_append, hrel]
    cases announced <;> rfl
  | _ => rfl

theorem filterMap_flatMap_notes (l : List Segment) :
    (l.flatMap notes).filterMap Notification.filteredStamp? = stamps l := by
  induction l with
  | nil => rfl
  | cons s rest ih =>
    rw [List.flatMap_cons, List.filterMap_append, filterMap_notes, ih, stamps, stamps,
      List.filterMap_cons]
    cases s.stamp? <;> rfl

end Segment

namespace Client

open Segment

/-- `start` was the best block at some time. -/
def StoodAt (base start : Stamp) (c : Client) : Prop :=
  ∃ earlier groups, c.stream = earlier ++ groups ∧ start = earlier.getLast?.getD base

/-- The segments `told` are all that the client has told, and each is sound in its place. -/
structure Spoken (base : Stamp) (told : List Segment) (c : Client) : Prop where
  gapless : c.Gapless base
  sent : c.sent = told.flatMap notes
  sound : ∀ earlier s later, told = earlier ++ s :: later → s.IsSound base (stamps earlier)
  start : ∀ u, c.catchUp = some u → c.StoodAt base u.start

section
variable {base : Stamp} {told : List Segment} {c d : Client}

theorem StoodAt.grow {start : Stamp} {l : List Stamp} (h : c.StoodAt base start)
    (hd : d.stream = c.stream ++ l) : d.StoodAt base start := by
  obtain ⟨earlier, groups, hstream, hstart⟩ := h
  exact ⟨earlier, groups ++ l, by rw [hd, hstream, List.append_assoc], hstart⟩

theorem StoodAt.now (h : c.Gapless base) : c.StoodAt base c.best :=
  ⟨c.stream, [], (List.append_nil _).symm, h.best⟩

/-- The blocks since one that was the best block are those of the heights above it. -/
theorem StoodAt.heights {start : Stamp} (h : c.StoodAt base start) (hc : c.Gapless base)
    (hlt : start.height.toNat < c.best.height.toNat) :
    (caughtUp start c.best).IsSound base c.stream := by
  obtain ⟨earlier, groups, hstream, hstart⟩ := h
  have hheights := hc.heights
  have hbest := hc.height_best
  rw [hstream, List.map_append, List.length_append, ← List.range'_append_1] at hheights
  rw [hstream, List.length_append] at hbest
  obtain ⟨hearlier, hgroups⟩ := List.append_inj hheights (by simp)
  have hstood : start.height.toNat = base.height.toNat + earlier.length := by
    rw [hstart]
    exact Stamp.height_getLast hearlier
  have hne : groups ≠ [] := by
    rintro rfl
    simp only [List.length_nil] at hbest
    omega
  refine ⟨earlier, groups, hstream, hstart, ?_, ?_⟩
  · rw [hc.best, hstream, List.getLast?_append, List.getLast?_eq_some_getLast hne, Option.some_or,
      Option.getD_some]
  · rw [hgroups, hstood, hbest]
    congr 1 <;> omega

theorem Spoken.stream (h : c.Spoken base told) : c.stream = stamps told := by
  rw [Client.stream, h.sent, filterMap_flatMap_notes]

theorem Spoken.congr (h : c.Spoken base told) (hs : d.sent = c.sent) (hb : d.best = c.best)
    (hu : ∀ u, d.catchUp = some u → c.StoodAt base u.start) : d.Spoken base told := by
  have hstream : d.stream = c.stream := congrArg (List.filterMap _) hs
  exact ⟨h.gapless.congr hstream hb, hs.trans h.sent, h.sound,
    fun u hd => (hu u hd).grow (l := []) (by rw [hstream, List.append_nil])⟩

/-- One more segment that is sound. -/
theorem Spoken.say (h : c.Spoken base told) {s : Segment} (hd : d.Gapless base)
    (hsent : d.sent = c.sent ++ s.notes) (hsound : s.IsSound base c.stream)
    (hu : ∀ u, d.catchUp = some u → c.StoodAt base u.start) : d.Spoken base (told ++ [s]) := by
  have hstream : d.stream = c.stream ++ s.stamp?.toList := by
    rw [Client.stream, hsent, List.filterMap_append, filterMap_notes, Client.stream]
  refine ⟨hd, ?_, ?_, fun u hcatch => (hu u hcatch).grow hstream⟩
  · rw [hsent, h.sent, List.flatMap_append, List.flatMap_singleton]
  · intro earlier t later hsplit
    rcases List.eq_nil_or_concat later with rfl | ⟨l, last, rfl⟩
    · obtain ⟨rfl, hst⟩ := List.append_inj' hsplit rfl
      rw [← h.stream, ← List.head_eq_of_cons_eq hst]
      exact hsound
    · rw [List.concat_eq_append, ← List.cons_append, ← List.append_assoc] at hsplit
      exact h.sound earlier t l (List.append_inj' hsplit rfl).1

/-- Beyond `told` the client has told segments that announce blocks only if that is asked for. -/
structure Speaks (base : Stamp) (asked : Bool) (told : List Segment) (c : Client) : Prop where
  wants : c.wantsBlocks = asked
  more : ∃ more, c.Spoken base (told ++ more) ∧ ∀ s ∈ more, s.Obeys (asked = true)

namespace Speaks

variable {asked : Bool}

theorem gapless (h : c.Speaks base asked told) : c.Gapless base :=
  h.more.elim fun _ hmore => hmore.1.gapless

theorem stoodAt (h : c.Speaks base asked told) : c.StoodAt base c.best :=
  .now h.gapless

theorem start (h : c.Speaks base asked told) {u : CatchUp} (hu : c.catchUp = some u) :
    c.StoodAt base u.start :=
  h.more.elim fun _ hmore => hmore.1.start u hu

theorem of_spoken (h : c.Spoken base told) : c.Speaks base c.wantsBlocks told :=
  ⟨rfl, [], by rwa [List.append_nil], by simp⟩

theorem congr (h : c.Speaks base asked told) (hw : d.wantsBlocks = c.wantsBlocks)
    (hs : d.sent = c.sent) (hb : d.best = c.best)
    (hu : ∀ u, d.catchUp = some u → c.StoodAt base u.start) : d.Speaks base asked told := by
  obtain ⟨more, hmore, hobeys⟩ := h.more
  exact ⟨hw.trans h.wants, more, hmore.congr hs hb hu, hobeys⟩

/-- Nothing is told, and no catch-up begins. -/
theorem quiet (h : c.Speaks base asked told) (hw : d.wantsBlocks = c.wantsBlocks)
    (hs : d.sent = c.sent) (hb : d.best = c.best) (hu : d.catchUp = none ∨ d.catchUp = c.catchUp) :
    d.Speaks base asked told := by
  refine h.congr hw hs hb fun u hd => ?_
  obtain hnone | hsame := hu
  · rw [hnone] at hd
    cases hd
  · exact h.start (hsame ▸ hd)

theorem say (h : c.Speaks base asked told) {s : Segment} (hw : d.wantsBlocks = c.wantsBlocks)
    (hd : d.Gapless base) (hsent : d.sent = c.sent ++ s.notes) (hsound : s.IsSound base c.stream)
    (hobeys : s.Obeys (asked = true)) (hu : ∀ u, d.catchUp = some u → c.StoodAt base u.start) :
    d.Speaks base asked told := by
  obtain ⟨more, hmore, hall⟩ := h.more
  refine ⟨hw.trans h.wants, more ++ [s], ?_, ?_⟩
  · rw [← List.append_assoc]
    exact hmore.say hd hsent hsound hu
  · intro t ht
    obtain hold | hnew := List.mem_append.1 ht
    · exact hall t hold
    · exact List.mem_singleton.1 hnew ▸ hobeys

theorem applied (h : c.Speaks base asked told) {b : PlacedBlock}
    (hp : c.best.Precedes b.height) : (c.applied b).Speaks base asked told := by
  refine h.say (s := .block c.wantsBlocks b.stamp (c.watch.filterBlock b.block).2) rfl
    (h.gapless.applied hp) (c.applied_sent b) trivial ?_ fun u hu => ?_
  · rw [Obeys, h.wants]
  · exact h.start (by rwa [applied_catchUp] at hu)

theorem settled (h : c.Speaks base asked told) {u : CatchUp} (hu : c.StoodAt base u.start) :
    (c.settled u).Speaks base asked told := by
  have hset := Steady.gapless_settled h.gapless u
  unfold Client.settled at hset ⊢
  split
  · next hlt =>
    rw [if_pos hlt] at hset
    have hsound := hu.heights h.gapless (UInt32.lt_iff_toNat_lt.1 hlt)
    exact h.say rfl hset rfl hsound trivial (by rintro _ ⟨⟩)
  · exact h.quiet rfl rfl rfl (.inl rfl)

theorem closeCatchUp (h : c.Speaks base asked told) {u : CatchUp} (hu : c.StoodAt base u.start) :
    (c.closeCatchUp u).Speaks base asked told := by
  obtain ⟨b, _, hp, hc⟩ | ⟨_, hc⟩ := c.closeCatchUp_cases u
  · rw [hc]
    exact (h.settled hu).applied (by rwa [settled_best])
  · rw [hc]
    exact h.settled hu

theorem advanceCatchUp (h : c.Speaks base asked told) {u : CatchUp}
    (hu : c.StoodAt base u.start) : (c.advanceCatchUp u).Speaks base asked told := by
  unfold Client.advanceCatchUp
  split
  · exact h.closeCatchUp hu
  · refine h.congr rfl rfl rfl ?_
    rintro _ ⟨⟩
    exact hu

theorem resumeCatchUp (h : c.Speaks base asked told) (hsteady : c.Steady base)
    (answer : Except Error Block) : (c.resumeCatchUp answer).1.Speaks base asked told := by
  cases hu : c.catchUp with
  | none => rwa [resumeCatchUp_of_none hu]
  | some u =>
    cases answer with
    | error e =>
      rw [resumeCatchUp_error hu]
      exact h.quiet rfl rfl rfl (.inl rfl)
    | ok block =>
      have hnext : c.best.Precedes u.next := (hsteady.fits u hu).next
      have happlied : (c.applied ⟨u.next, block⟩).Speaks base asked told := h.applied hnext
      rw [resumeCatchUp_of_precedes hu hnext]
      exact happlied.advanceCatchUp (happlied.start (by rwa [applied_catchUp]))

theorem startCatchUp (h : c.Speaks base asked told) (target : Height) :
    (c.startCatchUp target none).Speaks base asked told := by
  obtain ⟨_, _, hc⟩ | hc := c.startCatchUp_none_cases target
  · rw [hc]
    refine h.congr rfl rfl rfl ?_
    rintro _ ⟨⟩
    exact h.stoodAt
  · rw [hc]
    exact h.quiet rfl rfl rfl (.inl rfl)

theorem handleBlock (h : c.Speaks base asked told) (hidle : c.catchUp = none) (b : PlacedBlock) :
    (c.handleBlock b).Speaks base asked told := by
  have hgap : (c.notify (.heightGap c.best.height b.height)).Gapless base :=
    h.gapless.congr (stream_notify c rfl) rfl
  obtain ⟨hp, hc⟩ | ⟨_, hc⟩ | ⟨hlt, _, hc⟩ | ⟨hlt, _, _, hc⟩ := handleBlock_cases hidle b
  · rw [hc]
    exact h.applied hp
  · rwa [hc]
  · rw [hc]
    exact h.say (s := .heightGap c.best.height b.height) rfl hgap rfl hlt trivial
      fun u hu => h.start hu
  · rw [hc]
    refine h.say (s := .heightGap c.best.height b.height) rfl (hgap.congr rfl rfl) rfl hlt
      trivial ?_
    rintro _ ⟨⟩
    exact h.stoodAt

theorem handleAdded (h : c.Speaks base asked told) (t : Transaction) :
    (c.handleAdded t).Speaks base asked told := by
  by_cases ht : t.txid ∈ c.mirror
  · rwa [handleAdded_of_mem ht]
  · rw [handleAdded_of_not_mem ht]
    exact h.say (s := .transaction t) rfl (h.gapless.congr (stream_notify _ rfl) rfl) rfl trivial
      trivial fun u hu => h.start hu

theorem receiveTransaction (h : c.Speaks base asked told) (t : Transaction) :
    (c.receiveTransaction t).1.Speaks base asked told := by
  by_cases ht : t.txid ∈ c.mirror
  · rwa [receiveTransaction_of_mem ht]
  · rw [receiveTransaction_of_not_mem ht]
    exact h.quiet rfl rfl rfl (.inr rfl)

theorem handle (h : c.Speaks base asked told) : c.handle.Speaks base asked told :=
  handle_keep (fun _ _ _ hd => hd.quiet rfl rfl rfl (.inr rfl))
    (fun b hidle hd => hd.handleBlock hidle b) (fun t hd => hd.handleAdded t)
    (fun _ hd => hd.quiet rfl rfl rfl (.inr rfl)) h

end Speaks

end

end Client

end ChainFeed
