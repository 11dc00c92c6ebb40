import ChainFeed.Proofs.Client.BlockMove
import ChainFeed.Proofs.Client.Relevance

/-!
# The events in the hands of a client

A block whose gap is being filled, a block that is kept until the subscriber's catch-up is over, and
the events that the handler has still to take are in the hands of a client, in the order in which
they came. A move deals with the first of them, adds one at the end, or loses some since the handler
is to end. A transaction that is told of as unconfirmed has been taken from there. One that is told
of with a block need not have been, since blocks are fetched as well.
-/

namespace ChainFeed

/-- If this tells of a transaction, then with a block of `source` that has it, and the mirror is
without the transaction. -/
def Notification.IsConfirmed (source : PlacedBlock → Prop) (mirror : Distinct Txid)
    (n : Notification) : Prop :=
  ∀ t block?, n = .relevantTransaction t block? →
    ∃ b, source b ∧ block? = some b.stamp ∧ t ∈ b.block.transactions ∧ t.txid ∉ mirror

theorem Notification.isConfirmed_of_told {n : Notification} (hn : n.told? = none)
    (source : PlacedBlock → Prop) (mirror : Distinct Txid) : n.IsConfirmed source mirror := by
  rintro t block? rfl
  cases hn

theorem WatchList.mem_of_mem_filterBlock {w : WatchList} {b : Block} {t : Transaction}
    (ht : t ∈ (w.filterBlock b).2) : t ∈ b.transactions := by
  unfold filterBlock at ht
  split at ht
  · cases ht
  · exact (w.scan_sublist b.transactions).subset ht

namespace Client

/-- The block whose gap is being filled comes first, then the one kept while the subscriber's
catch-up is under way, then the events that the handler has still to take. -/
def hand (c : Client) : List Event :=
  ((c.catchUp.bind CatchUp.cause).toList ++ c.held.toList).map .blockConnected ++
    (c.last.toList ++ c.inbox)

/-- Work on blocks of `source` leads from `c` to `d`. Nothing has entered the mirror, and what has
been told of is confirmed. -/
structure Confirms (source : PlacedBlock → Prop) (c d : Client) : Prop where
  mirror : ∀ id ∈ d.mirror, id ∈ c.mirror
  sent : ∃ notes, d.sent = c.sent ++ notes ∧ ∀ n ∈ notes, n.IsConfirmed source d.mirror

namespace Confirms

variable {source : PlacedBlock → Prop} {c d e : Client}

theorem of_eq (hmirror : d.mirror = c.mirror) (hsent : d.sent = c.sent) : Confirms source c d :=
  ⟨fun _ hid => hmirror ▸ hid, [], by rw [hsent, List.append_nil], fun _ hn => nomatch hn⟩

theorem trans (hd : Confirms source c d) (he : Confirms source d e) : Confirms source c e := by
  obtain ⟨l, hl, hlconfirmed⟩ := hd.sent
  obtain ⟨m, hm, hmconfirmed⟩ := he.sent
  refine ⟨fun id hid => hd.mirror id (he.mirror id hid), l ++ m, ?_, ?_⟩
  · rw [hm, hl, List.append_assoc]
  · intro n hn
    rcases List.mem_append.1 hn with hn | hn
    · intro t block? ht
      obtain ⟨b, hb, hblock, hmem, hout⟩ := hlconfirmed n hn t block? ht
      exact ⟨b, hb, hblock, hmem, fun hid => hout (he.mirror _ hid)⟩
    · exact hmconfirmed n hn

theorem notify (c : Client) {n : Notification} (hn : n.told? = none) :
    Confirms source c (c.notify n) := by
  refine ⟨fun _ hid => hid, [n], rfl, fun n' hn' => ?_⟩
  rw [List.mem_singleton.1 hn']
  exact n.isConfirmed_of_told hn _ _

theorem applied (c : Client) {b : PlacedBlock} (hb : source b) :
    Confirms source c (c.applied b) := by
  have hmirror (id : Txid) :
      id ∈ (c.applied b).mirror ↔ id ∈ c.mirror ∧ id ∉ b.block.txids := Distinct.mem_eraseAll
  refine ⟨fun id hid => ((hmirror id).1 hid).1, c.blockNotes b, c.applied_sent b, ?_⟩
  rintro _ hn t block? rfl
  rw [blockNotes, List.mem_append, List.mem_append] at hn
  rcases hn with (hn | hn) | hn
  · split at hn
    · cases List.mem_singleton.1 hn
    · cases hn
  · obtain ⟨t', ht', heq⟩ := List.mem_map.1 hn
    cases heq
    have hmem := WatchList.mem_of_mem_filterBlock ht'
    exact ⟨b, hb, rfl, hmem, fun hid => ((hmirror _).1 hid).2 (List.mem_map_of_mem hmem)⟩
  · cases List.mem_singleton.1 hn

theorem settled (c : Client) (u : CatchUp) : Confirms source c (c.settled u) := by
  unfold Client.settled
  split
  · have hclosed : Confirms source c { c with catchUp := none } := .of_eq rfl rfl
    exact hclosed.trans (.notify _ rfl)
  · exact .of_eq rfl rfl

theorem closeCatchUp (c : Client) {u : CatchUp} (hcause : ∀ b, u.cause = some b → source b) :
    Confirms source c (c.closeCatchUp u) := by
  obtain ⟨b, hb, _, h⟩ | ⟨_, h⟩ := c.closeCatchUp_cases u
  · rw [h]
    exact (settled c u).trans (applied _ (hcause b hb))
  · rw [h]
    exact settled c u

end Confirms

/-- Of the blocks in hand `c` has dealt with the first ones, if with any, and has come to `d`. It
has taken in no block but these and those of `fetched`. -/
def Works (fetched : PlacedBlock → Prop) (c d : Client) : Prop :=
  ∃ taken : List PlacedBlock, c.hand = taken.map .blockConnected ++ d.hand ∧
    Confirms (fun b => b ∈ taken ∨ fetched b) c d

section
variable {fetched : PlacedBlock → Prop} {c : Client}

theorem Works.of_eq {d : Client} (hhand : d.hand = c.hand) (hmirror : d.mirror = c.mirror)
    (hsent : d.sent = c.sent) : Works fetched c d :=
  ⟨[], hhand.symm, .of_eq hmirror hsent⟩

/-- A catch-up takes with it the block that caused it. -/
theorem hand_of_cause {u : CatchUp} (hu : c.catchUp = some u) :
    c.hand = u.cause.toList.map .blockConnected ++ ({ c with catchUp := none }).hand := by
  simp only [hand, hu, Option.bind_some, Option.bind_none, Option.toList_none, List.nil_append,
    List.map_append, List.append_assoc]

theorem hand_closeCatchUp (c : Client) (u : CatchUp) :
    (c.closeCatchUp u).hand = ({ c with catchUp := none }).hand := by
  obtain ⟨b, _, _, h⟩ | ⟨_, h⟩ := c.closeCatchUp_cases u
  · rw [h]
    simp only [hand, applied_catchUp, applied_held, applied_last, applied_inbox, settled_catchUp,
      settled_held, settled_last, settled_inbox]
  · rw [h]
    simp only [hand, settled_catchUp, settled_held, settled_last, settled_inbox]

theorem works_advanceCatchUp {u : CatchUp} (hu : c.catchUp = some u) :
    Works fetched c (c.advanceCatchUp u) := by
  by_cases hlast : u.next = u.target ∨ c.isStopped = true
  · rw [advanceCatchUp_of_last hlast]
    refine ⟨u.cause.toList, ?_, .closeCatchUp c fun b hb => ?_⟩
    · rw [hand_closeCatchUp, hand_of_cause hu]
    · rw [hb]
      exact .inl (List.mem_singleton_self b)
  · have hne : u.next ≠ u.target := fun he => hlast (.inl he)
    have hs : c.isStopped = false := by simpa using fun hs => hlast (.inr hs)
    rw [advanceCatchUp_of_not_last hne hs]
    refine .of_eq ?_ rfl rfl
    simp only [hand, hu, Option.bind_some]

theorem works_resumeCatchUp {u : CatchUp} (hu : c.catchUp = some u) {answer : Except Error Block}
    (hanswer : ∀ block, answer = .ok block → fetched ⟨u.next, block⟩) :
    Works fetched c (c.resumeCatchUp answer).1 := by
  have hbroken : Works fetched c { c with catchUp := none } :=
    ⟨u.cause.toList, hand_of_cause hu, .of_eq rfl rfl⟩
  cases answer with
  | error e =>
    rw [resumeCatchUp_error hu]
    exact hbroken
  | ok block =>
    by_cases hp : c.best.Precedes u.next
    · rw [resumeCatchUp_of_precedes hu hp]
      have hrest : Works fetched (c.applied ⟨u.next, block⟩)
          ((c.applied ⟨u.next, block⟩).advanceCatchUp u) := works_advanceCatchUp hu
      obtain ⟨taken, hhand, hconfirms⟩ := hrest
      exact ⟨taken, hhand, (Confirms.applied c (.inr (hanswer block rfl))).trans hconfirms⟩
    · obtain h | h : c.resumeCatchUp (.ok block) = _ ∨ c.resumeCatchUp (.ok block) = _ :=
        resumeCatchUp_of_not_precedes hu hp
      · rw [h]
        exact works_advanceCatchUp hu
      · rw [h]
        exact hbroken

theorem works_startCatchUp (hidle : c.catchUp = none) (target : Height) :
    Works fetched c (c.startCatchUp target none) := by
  have hhand (u : Option CatchUp) (hu : u.bind CatchUp.cause = none) :
      ({ c with catchUp := u }).hand = c.hand := by
    simp only [hand, hidle, hu]
    rfl
  obtain ⟨_, _, h⟩ | h := c.startCatchUp_none_cases target
  · rw [h]
    exact .of_eq (hhand _ rfl) rfl rfl
  · rw [h]
    exact .of_eq (hhand none rfl) rfl rfl

theorem works_handleBlock {b : PlacedBlock} {held : Option PlacedBlock} {last : Option Event}
    {inbox : List Event} (hidle : c.catchUp = none)
    (hfirst : c.hand = .blockConnected b :: ({ c with held, last, inbox }).hand) :
    Works fetched c (({ c with held, last, inbox }).handleBlock b) := by
  have htaken : Confirms (fun b' => b' ∈ [b] ∨ fetched b') c { c with held, last, inbox } :=
    .of_eq rfl rfl
  obtain ⟨_, h⟩ | ⟨_, h⟩ | ⟨_, _, h⟩ | ⟨_, _, _, h⟩ :=
    handleBlock_cases (c := { c with held, last, inbox }) hidle b
  · rw [h]
    exact ⟨[b], hfirst, htaken.trans (.applied _ (.inl (List.mem_singleton_self b)))⟩
  · rw [h]
    exact ⟨[b], hfirst, htaken⟩
  · rw [h]
    exact ⟨[b], hfirst, htaken.trans (.notify _ rfl)⟩
  · rw [h]
    -- The block stays in hand until its gap is filled.
    refine ⟨[], ?_, ?_⟩
    · rw [hfirst]
      simp only [hand, hidle]
      rfl
    · have hgap : Confirms (fun b' => b' ∈ [] ∨ fetched b') c
          (({ c with held, last, inbox }).notify (.heightGap c.best.height b.height)) :=
        .trans (d := { c with held, last, inbox }) (.of_eq rfl rfl) (.notify _ rfl)
      exact hgap.trans (.of_eq rfl rfl)

end

/-- The ways in which a move can bear on the mirror and on the events in hand. -/
inductive HandMove (given : Input) (c d : Client) : Prop where
  | worked (h : Works (fun b => given.answer b.height (.ok b.block)) c d)
  | added (t : Transaction) (hhand : c.hand = .transactionAdded t :: d.hand)
      (hmirror : d.mirror = c.mirror.insert t.txid)
      (hsent : d.sent = c.sent ++
        if t.txid ∈ c.mirror then [] else [.relevantTransaction t none])
  | gone (id : Txid) (hhand : c.hand = .transactionRemoved id :: d.hand)
      (hmirror : d.mirror = c.mirror.erase id) (hsent : d.sent = c.sent)
  | delivered (e : Event) (hgiven : given.event e) (hhand : d.hand = c.hand ++ [e])
      (hmirror : d.mirror = c.mirror) (hsent : d.sent = c.sent)
  | lost (hhand : d.hand.Sublist c.hand) (hout : c.last = none → d.registered = false)
      (hmirror : d.mirror = c.mirror) (hsent : d.sent = c.sent)

section
variable {given : Input} {c : Client}

theorem hand_deliver (c : Client) (e : Event) :
    ({ c with inbox := c.inbox ++ [e] }).hand = c.hand ++ [e] := by
  simp only [hand, List.append_assoc]

theorem handMove_handleEvent {e : Event} {last : Option Event} {inbox : List Event}
    (hheld : c.held = none) (hfree : c.isBusy = false)
    (htake : c.last.toList ++ c.inbox = e :: (last.toList ++ inbox)) :
    HandMove given c (({ c with last, inbox }).handleEvent e) := by
  have hcause := cause_of_not_isBusy hfree
  have hhand : c.hand = e :: ({ c with last, inbox }).hand := by
    simp only [hand, hcause, hheld, htake]
    rfl
  cases e with
  | transactionAdded t =>
    have hframe : (({ c with last, inbox }).handleAdded t).hand = ({ c with last, inbox }).hand ∧
        (({ c with last, inbox }).handleAdded t).mirror = c.mirror.insert t.txid ∧
        (({ c with last, inbox }).handleAdded t).sent = c.sent ++
          if t.txid ∈ c.mirror then [] else [.relevantTransaction t none] := by
      by_cases ht : t.txid ∈ c.mirror
      · rw [handleAdded_of_mem (c := { c with last, inbox }) ht, if_pos ht, List.append_nil,
          Distinct.insert_of_mem ht]
        exact ⟨rfl, rfl, rfl⟩
      · rw [handleAdded_of_not_mem (c := { c with last, inbox }) ht, if_neg ht]
        exact ⟨rfl, rfl, rfl⟩
    obtain ⟨hafter, hmirror, hsent⟩ := hframe
    exact .added t (hhand.trans (congrArg _ hafter.symm)) hmirror hsent
  | transactionRemoved id => exact .gone id hhand rfl rfl
  | blockConnected b =>
    by_cases hidle : c.catchUp = none
    · simp only [handleEvent, hidle, Option.isSome_none, Bool.false_eq_true, if_false]
      have h : HandMove given c (({ c with held := c.held, last, inbox }).handleBlock b) :=
        .worked (works_handleBlock hidle hhand)
      rwa [hidle] at h
    · have hsome : c.catchUp.isSome = true := Option.isSome_iff_ne_none.2 hidle
      simp only [handleEvent, hsome, if_true]
      refine .worked (.of_eq ?_ rfl rfl)
      rw [hhand]
      simp only [hand, hcause, hheld]
      rfl

theorem handMove_handle (c : Client) : HandMove given c c.handle := by
  obtain h | ⟨b, hheld, hidle, h⟩ | ⟨e, hheld, hfree, hlast, h⟩ |
    ⟨e, rest, hheld, hfree, hlast, _, hin, h⟩ := c.handle_cases
  · rw [h]
    exact .worked (.of_eq rfl rfl rfl)
  · rw [h]
    refine .worked (works_handleBlock hidle ?_)
    simp only [hand, hidle, hheld]
    rfl
  · rw [h]
    exact handMove_handleEvent hheld hfree (by rw [hlast]; rfl)
  · rw [h]
    exact handMove_handleEvent hheld hfree (by rw [hlast, hin]; rfl)

theorem Move.handMove {d : Client} (hm : Move given c d) : HandMove given c d := by
  cases hm with
  | start hp => exact .worked ⟨[], rfl, .trans (d := { c with phase := .running })
      (.of_eq rfl rfl) (.notify _ rfl)⟩
  | stop =>
    refine .lost ?_ (fun _ => rfl) rfl rfl
    exact c.stop_sublist.append_left _
  | leave =>
    by_cases hlast : c.last = none
    · exact .worked (.of_eq (by simp only [hand, Client.leave, hlast]) rfl rfl)
    · refine .lost ?_ (fun h => absurd h hlast) rfl rfl
      exact (List.sublist_append_right _ _).append_left _
  | deliver e hgiven => exact .delivered e hgiven (c.hand_deliver e) rfl rfl
  | handle => exact handMove_handle c
  | catchUp target _ hidle => exact .worked (works_startCatchUp hidle target)
  | resume u answer hu hgiven =>
    refine .worked (works_resumeCatchUp hu fun block hblock => ?_)
    rwa [← hblock]
  | _ => exact .worked (.of_eq rfl rfl rfl)

end

/-- Without a new event the hand of a client only gets smaller. -/
theorem Moves.hand_sublist {given : Input} {c d : Client} (h : Moves given c d)
    (hnone : ∀ e, ¬ given.event e) : d.hand.Sublist c.hand := by
  refine h.keep (P := fun d => d.hand.Sublist c.hand) ?_ (.refl _)
  intro x y hm hx
  cases hm.handMove with
  | worked hworks =>
    obtain ⟨taken, hhand, _⟩ := hworks
    rw [hhand] at hx
    exact (List.sublist_append_right _ _).trans hx
  | added t hhand =>
    rw [hhand] at hx
    exact (List.sublist_cons_self _ _).trans hx
  | gone id hhand =>
    rw [hhand] at hx
    exact (List.sublist_cons_self _ _).trans hx
  | delivered e hgiven => exact absurd hgiven (hnone e)
  | lost hhand => exact hhand.trans hx

theorem hand_receiveTransaction (x : Client) (t : Transaction) :
    (x.receiveTransaction t).1.hand = x.hand := by
  by_cases ht : t.txid ∈ x.mirror
  · rw [receiveTransaction_of_mem ht]
  · rw [receiveTransaction_of_not_mem ht]
    rfl

theorem hand_received (x : Client) (b : PlacedBlock) : (x.received b).hand = x.hand := by
  by_cases hp : x.best.Precedes b.height
  · rw [received_of_precedes hp]
    rfl
  · rw [received_of_not_precedes hp]

theorem mirror_received (x : Client) (b : PlacedBlock) :
    ∀ id ∈ (x.received b).mirror, id ∈ x.mirror := by
  intro id hid
  by_cases hp : x.best.Precedes b.height
  · rw [received_of_precedes hp] at hid
    exact (Distinct.mem_eraseAll.1 hid).1
  · rwa [received_of_not_precedes hp] at hid

theorem sent_received (x : Client) (b : PlacedBlock) : (x.received b).sent = x.sent := by
  by_cases hp : x.best.Precedes b.height
  · rw [received_of_precedes hp]
  · rw [received_of_not_precedes hp]

theorem sent_receiveTransaction (x : Client) (t : Transaction) :
    (x.receiveTransaction t).1.sent = x.sent := by
  by_cases ht : t.txid ∈ x.mirror
  · rw [receiveTransaction_of_mem ht]
  · rw [receiveTransaction_of_not_mem ht]

end Client

end ChainFeed
