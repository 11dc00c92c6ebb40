import ChainFeed.Proofs.Client.Stream

/-!
# What moves do to the blocks of a client

Between the fan-out and the best block a block may wait in four places. `Client.waiting` lists the
blocks in the order in which the client comes to them, and the handler always takes the first one.
`Client.BlockMove` names the ways in which a move can bear on those blocks, on the best block, on
the fetches and on what the subscriber is told of them. Invariants about blocks look at nothing else.
-/

namespace ChainFeed

def Notification.gap? : Notification → Option (Height × Height)
  | heightGap best incoming => some (best, incoming)
  | _ => none

/-- The side of a client that has to do with blocks. -/
structure BlockView where
  best : Stamp
  catchUp : Option CatchUp
  /-- The blocks that have been taken in and are not done with. -/
  waiting : List PlacedBlock
  /-- The blocks that the subscriber has been told of. -/
  stream : List Stamp
  /-- The gaps that the subscriber has been told of. -/
  gaps : List (Height × Height)

namespace Client

/-- The block whose gap is being filled comes first, then the one kept while the subscriber's
catch-up is under way, then those among the events that the handler has still to take. -/
def waiting (c : Client) : List PlacedBlock :=
  (c.catchUp.bind CatchUp.cause).toList ++ c.held.toList ++
    (c.last.toList ++ c.inbox).filterMap Event.block?

def gaps (c : Client) : List (Height × Height) := c.sent.filterMap Notification.gap?

def blocks (c : Client) : BlockView := ⟨c.best, c.catchUp, c.waiting, c.stream, c.gaps⟩

/-- The ways in which a move can bear on the blocks of a client: it leaves them alone, it loses
some because the handler is to end, one comes in, the handler takes the first one, or a catch-up
begins, goes on or ends. -/
inductive BlockMove (given : Input) (c d : Client) : Prop where
  | same (h : d.blocks = c.blocks)
  | lost (rest : List PlacedBlock) (hrest : ∀ b ∈ rest, b ∈ c.waiting)
      (hout : c.last = none → d.registered = false)
      (h : d.blocks = { c.blocks with waiting := rest })
  | delivered (b : PlacedBlock) (hgiven : given.event (.blockConnected b))
      (h : d.blocks = { c.blocks with waiting := c.waiting ++ [b] })
  | applied (b : PlacedBlock) (rest : List PlacedBlock) (hidle : c.catchUp = none)
      (hfirst : c.waiting = b :: rest) (hnext : c.best.Precedes b.height)
      (h : d.blocks = { c.blocks with
        best := b.stamp, waiting := rest, stream := c.stream ++ [b.stamp] })
  | passed (b : PlacedBlock) (rest : List PlacedBlock) (hfirst : c.waiting = b :: rest)
      (hle : b.height.toNat ≤ c.best.height.toNat)
      (h : d.blocks = { c.blocks with waiting := rest })
  | gapLeft (b : PlacedBlock) (rest : List PlacedBlock) (hfirst : c.waiting = b :: rest)
      (hgap : c.best.height.toNat + 1 < b.height.toNat)
      (hleft : c.autoCatchUp = true → c.isStopped = true)
      (h : d.blocks = { c.blocks with
        waiting := rest, gaps := c.gaps ++ [(c.best.height, b.height)] })
  | gapFetched (b : PlacedBlock) (rest : List PlacedBlock) (hidle : c.catchUp = none)
      (hfirst : c.waiting = b :: rest) (hgap : c.best.height.toNat + 1 < b.height.toNat)
      (h : d.blocks = { c.blocks with
        catchUp := some ⟨c.best, c.best.height + 1, b.height - 1, some b⟩
        gaps := c.gaps ++ [(c.best.height, b.height)] })
  | setOut (target : Height) (hgiven : given.target target) (hidle : c.catchUp = none)
      (hlt : c.best.height.toNat < target.toNat)
      (h : d.blocks = { c.blocks with
        catchUp := some ⟨c.best, c.best.height + 1, target, none⟩ })
  | broken (u : CatchUp) (e : Error) (rest : List PlacedBlock) (hu : c.catchUp = some u)
      (hgiven : given.answer u.next (.error e)) (hrest : c.waiting = u.cause.toList ++ rest)
      (h : d.blocks = { c.blocks with catchUp := none, waiting := rest })
  | fetched (u : CatchUp) (block : Block) (hu : c.catchUp = some u) (hfits : u.Fits c.best)
      (hgiven : given.answer u.next (.ok block)) (hlt : u.next.toNat < u.target.toNat)
      (h : d.blocks = { c.blocks with
        best := PlacedBlock.stamp ⟨u.next, block⟩
        catchUp := some { u with next := u.next + 1 }
        stream := c.stream ++ [PlacedBlock.stamp ⟨u.next, block⟩] })
  | closed (u : CatchUp) (block : Block) (rest : List PlacedBlock) (hu : c.catchUp = some u)
      (hfits : u.Fits c.best) (hgiven : given.answer u.next (.ok block))
      (hcause : u.cause = none ∨ c.isStopped = true) (hrest : c.waiting = u.cause.toList ++ rest)
      (h : d.blocks = { c.blocks with
        best := PlacedBlock.stamp ⟨u.next, block⟩, catchUp := none, waiting := rest
        stream := c.stream ++ [PlacedBlock.stamp ⟨u.next, block⟩] })
  | filled (u : CatchUp) (block : Block) (b : PlacedBlock) (rest : List PlacedBlock)
      (hu : c.catchUp = some u) (hgiven : given.answer u.next (.ok block))
      (hfirst : c.waiting = b :: rest) (hfits : u.Fits c.best) (hcause : u.cause = some b)
      (h : d.blocks = { c.blocks with
        best := b.stamp, catchUp := none, waiting := rest
        stream := c.stream ++ [PlacedBlock.stamp ⟨u.next, block⟩, b.stamp] })

section
variable (c : Client)

theorem gaps_notify {n : Notification} (hn : n.gap? = none) : (c.notify n).gaps = c.gaps := by
  rw [gaps, notify, List.filterMap_append, List.filterMap_cons_none hn, List.filterMap_nil,
    List.append_nil, gaps]

theorem gaps_applied (b : PlacedBlock) : (c.applied b).gaps = c.gaps := by
  have hrel (l : List Transaction) :
      (l.map fun t => Notification.relevantTransaction t (some b.stamp)).filterMap
        Notification.gap? = [] := by
    rw [List.filterMap_eq_nil_iff]
    intro n hn
    obtain ⟨t, _, rfl⟩ := List.mem_map.1 hn
    rfl
  have hnotes : (c.blockNotes b).filterMap Notification.gap? = [] := by
    rw [blockNotes, List.filterMap_append, List.filterMap_append, hrel]
    split <;> rfl
  rw [gaps, applied_sent, List.filterMap_append, hnotes, List.append_nil, gaps]

/-- Only the news of a block or of a gap is part of the block view. -/
theorem blocks_notify {n : Notification} (hs : n.filteredStamp? = none) (hg : n.gap? = none) :
    (c.notify n).blocks = c.blocks := by
  rw [blocks, stream_notify c hs, gaps_notify c hg]
  rfl

theorem blocks_gap (b : PlacedBlock) : (c.notify (.heightGap c.best.height b.height)).blocks =
    { c.blocks with gaps := c.gaps ++ [(c.best.height, b.height)] } := by
  have hgaps : (c.notify (.heightGap c.best.height b.height)).gaps =
      c.gaps ++ [(c.best.height, b.height)] := List.filterMap_append
  rw [blocks, stream_notify c rfl, hgaps]
  rfl

theorem blocks_applied (b : PlacedBlock) : (c.applied b).blocks =
    { c.blocks with best := b.stamp, stream := c.stream ++ [b.stamp] } := by
  rw [blocks, stream_applied, gaps_applied]
  rfl

theorem blocks_settled (u : CatchUp) :
    (c.settled u).blocks = ({ c with catchUp := none }).blocks := by
  unfold settled
  split
  · exact blocks_notify _ rfl rfl
  · rfl

/-- A catch-up takes with it the block that caused it. -/
theorem waiting_of_cause {u : CatchUp} (hu : c.catchUp = some u) :
    c.waiting = u.cause.toList ++ ({ c with catchUp := none }).waiting := by
  simp only [waiting, hu, Option.bind_some, Option.bind_none, Option.toList_none, List.nil_append,
    List.append_assoc]

theorem waiting_deliver (e : Event) :
    ({ c with inbox := c.inbox ++ [e] }).waiting = c.waiting ++ e.block?.toList := by
  have he : [e].filterMap Event.block? = e.block?.toList := by
    cases e <;> rfl
  simp only [waiting, List.filterMap_append, he, List.append_assoc]

theorem mem_waiting_stop {b : PlacedBlock} (hb : b ∈ c.stop.waiting) : b ∈ c.waiting := by
  rcases List.mem_append.1 hb with hfirst | hlast
  · exact List.mem_append_left _ hfirst
  · exact List.mem_append_right _ ((c.stop_sublist.filterMap _).subset hlast)

theorem mem_waiting_leave {b : PlacedBlock} (hb : b ∈ c.leave.waiting) : b ∈ c.waiting := by
  simp only [waiting, leave, List.mem_append, List.mem_filterMap] at hb ⊢
  obtain hfirst | ⟨e, he | he, hb⟩ := hb
  · exact .inl hfirst
  · cases he
  · exact .inr ⟨e, .inr he, hb⟩

end

section
variable {given : Input} {c d : Client}

theorem blocks_eq_of_waiting (hbest : d.best = c.best) (hcatchUp : d.catchUp = c.catchUp)
    (hwaiting : d.waiting = c.waiting) (hsent : d.sent = c.sent) : d.blocks = c.blocks := by
  simp only [blocks, stream, gaps, hbest, hcatchUp, hwaiting, hsent]

theorem blocks_handleAdded (c : Client) (t : Transaction) :
    (c.handleAdded t).blocks = c.blocks := by
  by_cases ht : t.txid ∈ c.mirror
  · rw [handleAdded_of_mem ht]
  · rw [handleAdded_of_not_mem ht]
    exact blocks_notify _ rfl rfl

theorem blocks_receiveTransaction (c : Client) (t : Transaction) :
    (c.receiveTransaction t).1.blocks = c.blocks := by
  by_cases ht : t.txid ∈ c.mirror
  · rw [receiveTransaction_of_mem ht]
  · rw [receiveTransaction_of_not_mem ht]
    rfl

theorem cause_of_not_isBusy (hfree : c.isBusy = false) : c.catchUp.bind CatchUp.cause = none := by
  simp only [isBusy, Bool.or_eq_false_iff] at hfree
  cases hu : c.catchUp with
  | none => rfl
  | some u =>
    rw [hu, Option.any_some] at hfree
    exact Option.isNone_iff_eq_none.1 (by simpa using hfree.2)

/-- With no event to take and no block being worked on, no block is in hand. -/
theorem waiting_of_idle (hfree : c.isBusy = false) (hlast : c.last = none) (hinbox : c.inbox = []) :
    c.waiting = [] := by
  have hheld : c.held = none := by
    simp only [isBusy, Bool.or_eq_false_iff] at hfree
    simpa using hfree.1
  rw [waiting, cause_of_not_isBusy hfree, hheld, hlast, hinbox]
  rfl

theorem blockMove_deliver {e : Event} (hgiven : given.event e) :
    BlockMove given c { c with inbox := c.inbox ++ [e] } := by
  have hwaiting := c.waiting_deliver e
  cases e with
  | blockConnected b => exact .delivered b hgiven (by rw [blocks, hwaiting]; rfl)
  | transactionAdded t =>
    exact .same (blocks_eq_of_waiting rfl rfl (hwaiting.trans (List.append_nil _)) rfl)
  | transactionRemoved id =>
    exact .same (blocks_eq_of_waiting rfl rfl (hwaiting.trans (List.append_nil _)) rfl)

theorem blockMove_handleBlock {b : PlacedBlock} {held : Option PlacedBlock} {last : Option Event}
    {inbox : List Event} (hidle : c.catchUp = none)
    (hfirst : c.waiting = b :: ({ c with held, last, inbox }).waiting) :
    BlockMove given c (({ c with held, last, inbox }).handleBlock b) := by
  obtain ⟨hp, h⟩ | ⟨hle, h⟩ | ⟨hgap, hleft, h⟩ | ⟨hgap, _, _, h⟩ :=
    handleBlock_cases (c := { c with held, last, inbox }) hidle b
  · exact .applied b _ hidle hfirst hp (by rw [h, blocks_applied]; rfl)
  · exact .passed b _ hfirst hle (by rw [h]; rfl)
  · refine .gapLeft b _ hfirst hgap hleft ?_
    rw [h]
    exact blocks_gap { c with held, last, inbox } b
  · refine .gapFetched b _ hidle hfirst hgap ?_
    have hwaiting : ({ ({ c with held, last, inbox } : Client).notify
        (.heightGap c.best.height b.height) with
          catchUp := some ⟨c.best, c.best.height + 1, b.height - 1, some b⟩ }).waiting =
        c.waiting := by
      rw [hfirst, waiting_of_cause _ rfl]
      change b :: ({ c with held, last, inbox, catchUp := none } : Client).waiting = _
      rw [← hidle]
    have hgap' := blocks_gap { c with held, last, inbox } b
    rw [h, blocks, hwaiting]
    exact congrArg (fun v : BlockView => { v with
      catchUp := some ⟨c.best, c.best.height + 1, b.height - 1, some b⟩,
      waiting := c.waiting }) hgap'

theorem blockMove_handleEvent {e : Event} {last : Option Event} {inbox : List Event}
    (hheld : c.held = none) (hfree : c.isBusy = false)
    (htake : c.last.toList ++ c.inbox = e :: (last.toList ++ inbox)) :
    BlockMove given c (({ c with last, inbox }).handleEvent e) := by
  have hcause := cause_of_not_isBusy hfree
  have hwaiting : c.waiting = e.block?.toList ++ ({ c with last, inbox }).waiting := by
    simp only [waiting, hcause, hheld, htake, Option.toList_none, List.nil_append]
    cases e <;> rfl
  cases e with
  | transactionAdded t =>
    exact .same ((blocks_handleAdded _ t).trans (blocks_eq_of_waiting rfl rfl hwaiting.symm rfl))
  | transactionRemoved id => exact .same (blocks_eq_of_waiting rfl rfl hwaiting.symm rfl)
  | blockConnected b =>
    by_cases hidle : c.catchUp = none
    · simp only [handleEvent, hidle, Option.isSome_none, Bool.false_eq_true, if_false]
      have h : BlockMove given c (({ c with held := c.held, last, inbox }).handleBlock b) :=
        blockMove_handleBlock hidle hwaiting
      rwa [hidle] at h
    · have hsome : c.catchUp.isSome = true := Option.isSome_iff_ne_none.2 hidle
      simp only [handleEvent, hsome, if_true]
      refine .same (blocks_eq_of_waiting rfl rfl ?_ rfl)
      rw [hwaiting]
      simp only [waiting, hcause, hheld]
      rfl

theorem blockMove_handle (c : Client) : BlockMove given c c.handle := by
  obtain h | ⟨b, hheld, hidle, h⟩ | ⟨e, hheld, hfree, hlast, h⟩ |
    ⟨e, rest, hheld, hfree, hlast, _, hin, h⟩ := c.handle_cases
  · exact .same (by rw [h])
  · rw [h]
    refine blockMove_handleBlock hidle ?_
    simp only [waiting, hidle, hheld]
    rfl
  · rw [h]
    exact blockMove_handleEvent hheld hfree (by rw [hlast]; rfl)
  · rw [h]
    exact blockMove_handleEvent hheld hfree (by rw [hlast, hin]; rfl)

theorem blockMove_catchUp {target : Height} (hgiven : given.target target)
    (hidle : c.catchUp = none) : BlockMove given c (c.startCatchUp target none) := by
  have hwaiting (u : Option CatchUp) (hu : u.bind CatchUp.cause = none) :
      ({ c with catchUp := u }).waiting = c.waiting := by
    simp only [waiting, hidle, hu]
    rfl
  obtain ⟨hlt, _, h⟩ | h := c.startCatchUp_none_cases target
  · refine .setOut target hgiven hidle hlt ?_
    rw [h, blocks, hwaiting _ rfl]
    rfl
  · rw [h]
    exact .same (blocks_eq_of_waiting rfl hidle.symm (hwaiting none rfl) rfl)

theorem blockMove_resume {u : CatchUp} (hu : c.catchUp = some u) (hfits : u.Fits c.best)
    {answer : Except Error Block} (hgiven : given.answer u.next answer) :
    BlockMove given c (c.resumeCatchUp answer).1 := by
  have hrest := c.waiting_of_cause hu
  cases answer with
  | error e =>
    rw [resumeCatchUp_error hu]
    exact .broken u e _ hu hgiven hrest rfl
  | ok block =>
    rw [resumeCatchUp_of_precedes hu hfits.next]
    have happlied := c.blocks_applied ⟨u.next, block⟩
    by_cases hlast : u.next = u.target ∨ c.isStopped = true
    · rw [advanceCatchUp_of_last (c := c.applied ⟨u.next, block⟩) hlast]
      have hset : ((c.applied ⟨u.next, block⟩).settled u).blocks = { c.blocks with
          best := PlacedBlock.stamp ⟨u.next, block⟩, catchUp := none
          waiting := ({ c with catchUp := none }).waiting
          stream := c.stream ++ [PlacedBlock.stamp ⟨u.next, block⟩] } := by
        rw [blocks_settled]
        exact congrArg (fun v : BlockView => { v with
          catchUp := none, waiting := ({ c with catchUp := none }).waiting }) happlied
      obtain ⟨b, hb, hp, h⟩ | ⟨hnot, h⟩ := (c.applied ⟨u.next, block⟩).closeCatchUp_cases u
      · refine .filled u block b _ hu hgiven (by rw [hrest, hb]; rfl) hfits hb ?_
        have hstream : ((c.applied ⟨u.next, block⟩).settled u).stream =
            c.stream ++ [PlacedBlock.stamp ⟨u.next, block⟩] := congrArg BlockView.stream hset
        rw [h, blocks_applied, hset, hstream, List.append_assoc]
        rfl
      · refine .closed u block _ hu hfits hgiven ?_ hrest (by rw [h, hset])
        cases hb : u.cause with
        | none => exact .inl rfl
        | some b =>
          -- A client that runs has come to the block just below the one that caused the catch-up.
          refine .inr (hlast.resolve_left fun hnext => hnot b hb ?_)
          change b.height.toNat = u.next.toNat + 1
          rw [hfits.cause b hb, hnext]
    · have hne : u.next ≠ u.target := fun he => hlast (.inl he)
      have hs : c.isStopped = false := by simpa using fun hs => hlast (.inr hs)
      have hlt := Height.toNat_lt_of_ne hfits.next_le_target hne
      rw [advanceCatchUp_of_not_last (c := c.applied ⟨u.next, block⟩) hne hs]
      have hwaiting : ({ c.applied ⟨u.next, block⟩ with
          catchUp := some { u with next := u.next + 1 } }).waiting = c.waiting := by
        simp only [waiting, hu]
        rfl
      refine .fetched u block hu hfits hgiven hlt ?_
      rw [blocks, hwaiting]
      exact congrArg (fun v : BlockView => { v with
        catchUp := some { u with next := u.next + 1 }, waiting := c.waiting }) happlied

theorem Move.blockMove {base : Stamp} (hm : Move given c d) (hsteady : c.Steady base) :
    BlockMove given c d := by
  cases hm with
  | start => exact .same (blocks_notify _ rfl rfl)
  | stop => exact .lost c.stop.waiting (fun b hb => c.mem_waiting_stop hb) (fun _ => rfl) rfl
  | leave =>
    by_cases hlast : c.last = none
    · exact .same (blocks_eq_of_waiting rfl rfl (by simp only [waiting, Client.leave, hlast]) rfl)
    · exact .lost c.leave.waiting (fun b hb => c.mem_waiting_leave hb) (fun h => absurd h hlast) rfl
  | deliver e hgiven => exact blockMove_deliver hgiven
  | handle => exact blockMove_handle c
  | catchUp target hgiven hidle => exact blockMove_catchUp hgiven hidle
  | resume u answer hu hgiven => exact blockMove_resume hu (hsteady.fits u hu) hgiven
  | _ => exact .same rfl

end

end Client

end ChainFeed
