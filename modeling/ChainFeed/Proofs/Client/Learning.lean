import ChainFeed.Proofs.Client.Move

/-!
# What a client learns

The outpoints on a watch-list grow by what the subscriber is told of. A transaction that the client
tells of, alone or in a block, adds those of its outputs that pay a watched script, and nothing else
that the handler does adds any.
-/

namespace ChainFeed

namespace WatchList

theorem paidBy_congr {v w : WatchList} (h : v.scripts = w.scripts) (t : Transaction) :
    v.paidBy t = w.paidBy t := by
  rw [paidBy, paidBy, h]

theorem mem_outpoints_follow {w : WatchList} {t : Transaction} {o : OutPoint} :
    o ∈ (w.follow t).outpoints ↔ o ∈ w.outpoints ∨ o ∈ w.paidBy t :=
  Distinct.mem_insertAll

theorem scripts_scan (w : WatchList) (l : List Transaction) :
    (w.scan l).1.scripts = w.scripts := by
  induction l generalizing w with
  | nil => rfl
  | cons t rest ih =>
    by_cases h : w.hits t = true
    · rw [scan_cons_of_hits h]
      exact ih (w.follow t)
    · rw [scan_cons_of_not_hits (by simpa using h)]
      exact ih w

theorem mem_outpoints_scan (w : WatchList) (l : List Transaction) (o : OutPoint) :
    o ∈ (w.scan l).1.outpoints ↔ o ∈ w.outpoints ∨ ∃ t ∈ (w.scan l).2, o ∈ w.paidBy t := by
  induction l generalizing w with
  | nil => simp
  | cons t rest ih =>
    by_cases h : w.hits t = true
    · have hpaid (t' : Transaction) : (w.follow t).paidBy t' = w.paidBy t' := paidBy_congr rfl t'
      rw [scan_cons_of_hits h]
      simp only [ih, mem_outpoints_follow, hpaid, List.mem_cons, exists_eq_or_imp, or_assoc]
    · rw [scan_cons_of_not_hits (by simpa using h)]
      exact ih w

theorem scripts_filterBlock (w : WatchList) (b : Block) :
    (w.filterBlock b).1.scripts = w.scripts := by
  unfold filterBlock
  split
  · rfl
  · exact w.scripts_scan b.transactions

theorem mem_outpoints_filterBlock (w : WatchList) (b : Block) (o : OutPoint) :
    o ∈ (w.filterBlock b).1.outpoints ↔
      o ∈ w.outpoints ∨ ∃ t ∈ (w.filterBlock b).2, o ∈ w.paidBy t := by
  unfold filterBlock
  split
  · simp
  · exact w.mem_outpoints_scan b.transactions o

/-- Output number `k` is among those that pay a watched script. -/
theorem mem_paidBy {w : WatchList} {t : Transaction} {k : Nat} {out : TxOut}
    (hk : t.outputs[k]? = some out) (hs : out.script ∈ w.scripts) :
    ⟨t.txid, k.toUInt32⟩ ∈ w.paidBy t := by
  rw [paidBy, List.mem_filterMap]
  exact ⟨(out, k), List.mem_zipIdx_iff_getElem?.2 hk, if_pos hs⟩

end WatchList

def Notification.told? : Notification → Option Transaction
  | relevantTransaction t _ => some t
  | _ => none

namespace Client

/-- What the subscriber has been told from `x` to `y` is `l`, and the watch-list has grown by the
outputs of the transactions among it that pay a watched script. -/
structure Learns (l : List Notification) (x y : Client) : Prop where
  sent : y.sent = x.sent ++ l
  scripts : y.watch.scripts = x.watch.scripts
  outpoints : ∀ o, o ∈ y.watch.outpoints ↔
    o ∈ x.watch.outpoints ∨ ∃ t ∈ l.filterMap Notification.told?, o ∈ x.watch.paidBy t

def Learned (x y : Client) : Prop := ∃ l, Learns l x y

theorem Learns.of_eq {l : List Notification} {x y : Client} (hs : y.sent = x.sent ++ l)
    (hw : y.watch = x.watch) (hl : l.filterMap Notification.told? = []) : Learns l x y :=
  ⟨hs, by rw [hw], by simp [hw, hl]⟩

namespace Learned

variable {x y z : Client}

theorem of_eq (hs : y.sent = x.sent) (hw : y.watch = x.watch) : Learned x y :=
  ⟨[], .of_eq (by rw [hs, List.append_nil]) hw rfl⟩

theorem trans (hxy : Learned x y) (hyz : Learned y z) : Learned x z := by
  obtain ⟨l, hl⟩ := hxy
  obtain ⟨m, hm⟩ := hyz
  have hpaid (t : Transaction) : y.watch.paidBy t = x.watch.paidBy t :=
    WatchList.paidBy_congr hl.scripts t
  refine ⟨l ++ m, ?_, hm.scripts.trans hl.scripts, fun o => ?_⟩
  · rw [hm.sent, hl.sent, List.append_assoc]
  · rw [hm.outpoints, hl.outpoints, or_assoc]
    simp only [hpaid, List.filterMap_append, List.mem_append, or_and_right, exists_or]

theorem notify (x : Client) {n : Notification} (hn : n.told? = none) : Learned x (x.notify n) :=
  ⟨[n], .of_eq rfl rfl (List.filterMap_cons_none hn)⟩

end Learned

theorem told_blockNotes (c : Client) (b : PlacedBlock) :
    (c.blockNotes b).filterMap Notification.told? = (c.watch.filterBlock b.block).2 := by
  have hrel (l : List Transaction) :
      (l.map fun t => Notification.relevantTransaction t (some b.stamp)).filterMap
        Notification.told? = l := by
    rw [List.filterMap_map]
    exact List.filterMap_some
  have hasked : (if c.wantsBlocks then [Notification.blockConnected b.stamp] else []).filterMap
      Notification.told? = [] := by
    split <;> rfl
  have hlast : [Notification.filteredBlockConnected b.stamp
      (c.watch.filterBlock b.block).2].filterMap Notification.told? = [] := rfl
  rw [blockNotes, List.filterMap_append, List.filterMap_append, hrel, hasked, hlast,
    List.nil_append, List.append_nil]

section
variable (c : Client)

theorem learns_applied (b : PlacedBlock) : Learns (c.blockNotes b) c (c.applied b) := by
  refine ⟨c.applied_sent b, c.watch.scripts_filterBlock b.block, fun o => ?_⟩
  rw [told_blockNotes]
  exact c.watch.mem_outpoints_filterBlock b.block o

theorem keptByFetching_learned : KeptByFetching (Learned c) where
  catchUp _ h := h.trans (.of_eq rfl rfl)
  caughtUp _ _ h := h.trans (.notify _ rfl)
  gap _ _ h := h.trans (.notify _ rfl)
  applied b h := h.trans ⟨_, learns_applied _ b⟩

theorem learned_handleAdded (t : Transaction) : Learned c (c.handleAdded t) := by
  by_cases ht : t.txid ∈ c.mirror
  · rw [handleAdded_of_mem ht]
    exact .of_eq rfl rfl
  · rw [handleAdded_of_not_mem ht]
    refine ⟨[.relevantTransaction t none], rfl, rfl, fun o => ?_⟩
    have htold : [Notification.relevantTransaction t none].filterMap Notification.told? = [t] := rfl
    rw [htold]
    simp only [List.mem_singleton, exists_eq_left]
    exact WatchList.mem_outpoints_follow

end

theorem Moves.learned {given : Input} {c d : Client} (h : Moves given c d) :
    Learned c d := by
  refine h.keep (P := Learned c) ?_ (.of_eq rfl rfl)
  intro x y hm hx
  cases hm with
  | start h =>
    have hrun : Learned x { x with phase := .running } := .of_eq rfl rfl
    exact hx.trans (hrun.trans (.notify _ rfl))
  | handle =>
    exact handle_keep (fun _ _ _ hd => hd.trans (.of_eq rfl rfl))
      (fun b _ hd => c.keptByFetching_learned.handleBlock hd b)
      (fun {d} t hd => hd.trans (d.learned_handleAdded t))
      (fun _ hd => hd.trans (.of_eq rfl rfl)) hx
  | catchUp target => exact c.keptByFetching_learned.startCatchUp hx target none
  | resume u answer => exact c.keptByFetching_learned.resumeCatchUp hx answer
  | _ => exact hx.trans (.of_eq rfl rfl)

end Client

end ChainFeed
