import ChainFeed.Proofs.Run.Deliveries
import ChainFeed.Proofs.Run.Fanout
import ChainFeed.Proofs.Run.MempoolStep

/-!
# Mirrors and the tracked transactions

The tracked transactions change when an event is handed out, and the mirror of a client changes when
the handler takes the event. So the mirror is compared with them as it will be when the events that
wait have been taken. A client that is not offered an addition, or loses it, has less in its mirror,
and so has one that applies a block. Only a lost removal would leave an id in the mirror for good.
-/

namespace ChainFeed

/-- What an event makes of the ids in the mempool. A block takes out its transactions where it is
applied. -/
def Event.affect (applied : PlacedBlock → Bool) (ids : Distinct Txid) : Event → Distinct Txid
  | .blockConnected b => if applied b then ids.eraseAll b.block.txids else ids
  | .transactionAdded t => ids.insert t.txid
  | .transactionRemoved id => ids.erase id

/-- What events make of the ids in the mempool, one after the other. -/
def Event.replay (applied : PlacedBlock → Bool) (ids : Distinct Txid) (l : List Event) :
    Distinct Txid :=
  l.foldl (affect applied) ids

/-- The ids in the mempool after a change of it. -/
def Distinct.change (ids : Distinct Txid) (p : Txid × Bool) : Distinct Txid :=
  if p.2 then ids.insert p.1 else ids.erase p.1

namespace Event

theorem replay_append (applied : PlacedBlock → Bool) (ids : Distinct Txid) (l m : List Event) :
    replay applied ids (l ++ m) = replay applied (replay applied ids l) m := List.foldl_append

/-- Where more is in the mempool and fewer blocks are applied, more is in the mempool afterwards. -/
theorem affect_mono {applied : PlacedBlock → Bool} {ids known : Distinct Txid}
    (h : ∀ id ∈ ids, id ∈ known) (e : Event) :
    ∀ id ∈ affect applied ids e, id ∈ affect (fun _ => false) known e := by
  intro id hid
  cases e with
  | blockConnected b =>
    apply h id
    simp only [affect] at hid
    split at hid
    · exact (Distinct.mem_eraseAll.1 hid).1
    · exact hid
  | transactionAdded t =>
    rcases Distinct.mem_insert.1 hid with hold | hnew
    · exact Distinct.mem_insert.2 (.inl (h id hold))
    · exact Distinct.mem_insert.2 (.inr hnew)
  | transactionRemoved gone =>
    obtain ⟨hne, hold⟩ := Distinct.mem_erase.1 hid
    exact Distinct.mem_erase.2 ⟨hne, h id hold⟩

theorem replay_mono {applied : PlacedBlock → Bool} {ids known : Distinct Txid}
    (h : ∀ id ∈ ids, id ∈ known) (l : List Event) :
    ∀ id ∈ replay applied ids l, id ∈ replay (fun _ => false) known l := by
  induction l generalizing ids known with
  | nil => exact h
  | cons e rest ih => exact ih (affect_mono h e)

/-- Blocks that are not applied change nothing. -/
theorem replay_blocks (ids : Distinct Txid) (l : List PlacedBlock) :
    replay (fun _ => false) ids (l.map .blockConnected) = ids := by
  induction l with
  | nil => rfl
  | cons b rest ih => exact ih

theorem replay_eq_foldl_change (ids : Distinct Txid) (l : List Event) :
    replay (fun _ => false) ids l = (l.filterMap Event.change?).foldl Distinct.change ids := by
  induction l generalizing ids with
  | nil => rfl
  | cons e rest ih =>
    cases e with
    | blockConnected b => exact ih ids
    | transactionAdded t => exact ih (ids.insert t.txid)
    | transactionRemoved id => exact ih (ids.erase id)

end Event

theorem Distinct.foldl_change_gone (ids : Distinct Txid) (l : List Txid) :
    (l.map fun id => (id, false)).foldl Distinct.change ids = ids.eraseAll l := by
  rw [List.foldl_map]
  rfl

namespace Client

/-- The mirror lies within `tracked` when the events in hand have been dealt with. -/
def Trails (tracked : Distinct Txid) (x : Client) : Prop :=
  ∀ id ∈ Event.replay (fun _ => false) x.mirror x.hand, id ∈ tracked

/-- The events among those that are offered in turn which the client loses, its inbox being full. -/
def missed (x : Client) : List Event → List Event
  | [] => []
  | e :: rest => (if x.misses e.concerns e then [e] else []) ++ (x.offer e.concerns e).missed rest

namespace Trails

variable {tracked : Distinct Txid} {x y : Client}

theorem congr {tracked' : Distinct Txid} (h : x.Trails tracked) (hhand : y.hand = x.hand)
    (hmirror : ∀ id ∈ y.mirror, id ∈ x.mirror) (htracked : ∀ id ∈ tracked, id ∈ tracked') :
    y.Trails tracked' := by
  intro id hid
  rw [hhand] at hid
  exact htracked id (h id (Event.replay_mono hmirror x.hand id hid))

theorem offer (h : x.Trails tracked) {e : Event} (hin : x.registered = true)
    (hrun : x.isStopped = false) (hkept : ∀ id, e = .transactionRemoved id →
      x.misses e.concerns e = false) :
    (x.offer e.concerns e).Trails (e.affect (fun _ => false) tracked) := by
  rcases x.offer_cases e.concerns e with ⟨_, _, _, heq⟩ | ⟨hnot, heq⟩
  · intro id hid
    rw [heq, hand_deliver, Event.replay_append] at hid
    exact Event.affect_mono h e id hid
  · rw [heq]
    cases e with
    | blockConnected b => exact h
    | transactionAdded t => exact h.congr rfl (fun _ hid => hid) fun _ hid =>
        Distinct.mem_insert.2 (.inl hid)
    | transactionRemoved gone =>
      have haddressed : x.isAddressed (Event.transactionRemoved gone).concerns = true := by
        simp [isAddressed, hin, Event.concerns]
      rcases x.takes_or_misses (.transactionRemoved gone) haddressed hrun with
        ⟨_, _, htaken⟩ | ⟨_, hmissed, _⟩
      · rw [heq] at htaken
        have hlength := congrArg (fun z : Client => z.inbox.length) htaken
        simp at hlength
      · rw [hkept gone rfl] at hmissed
        cases hmissed

theorem offerAll (h : x.Trails tracked) {l : List Event} (hin : x.registered = true)
    (hrun : x.isStopped = false) (hkept : ∀ id, .transactionRemoved id ∉ x.missed l) :
    (x.offerAll l).Trails (Event.replay (fun _ => false) tracked l) := by
  induction l generalizing x tracked with
  | nil => exact h
  | cons e rest ih =>
    have hplace := SamePlace.offer e.concerns e x
    apply ih
    · apply h.offer hin hrun
      rintro id rfl
      by_contra hmisses
      rw [Bool.not_eq_false] at hmisses
      apply hkept id
      rw [missed, if_pos hmisses]
      exact List.mem_cons_self
    · rw [hplace.registered, hin]
    · rw [hplace.isStopped, hrun]
    · intro id hid
      exact hkept id (List.mem_append_right _ hid)

/-- The handler takes the events in the order in which they would be replayed. -/
theorem move {given : Input} (h : x.Trails tracked) (hm : Move given x y)
    (hnone : ∀ e, ¬ given.event e) (hin : y.registered = true) (hlast : x.last = none) :
    y.Trails tracked := by
  cases hm.handMove with
  | worked hworks =>
    obtain ⟨taken, hhand, hconfirms⟩ := hworks
    intro id hid
    apply h id
    rw [hhand, Event.replay_append, Event.replay_blocks]
    exact Event.replay_mono hconfirms.mirror y.hand id hid
  | added t hhand hmirror =>
    intro id hid
    apply h id
    rw [hhand]
    rwa [hmirror] at hid
  | gone gone hhand hmirror =>
    intro id hid
    apply h id
    rw [hhand]
    rwa [hmirror] at hid
  | delivered e hgiven => exact absurd hgiven (hnone e)
  | lost _ hout =>
    rw [hout hlast] at hin
    cases hin

theorem moves {given : Input} (h : x.registered = true → x.Trails tracked) (horderly : x.Orderly)
    (hm : Moves given x y) (hnone : ∀ e, ¬ given.event e) (hin : y.registered = true) :
    y.Trails tracked := by
  have hall : y.Orderly ∧ (y.registered = true → y.Trails tracked) := by
    apply hm.keep (P := fun z => z.Orderly ∧ (z.registered = true → z.Trails tracked)) _
      ⟨horderly, h⟩
    intro z w hm hz
    refine ⟨hz.1.move hm, fun hin => ?_⟩
    have hbefore : z.registered = true := (hm.samePlace hin).registered ▸ hin
    exact (hz.2 hbefore).move hm hnone hin (hz.1 hbefore).2
  exact hall.2 hin

end Trails

end Client

namespace Connection

open Client

/-- The events that the client at `slot` loses in a step because its inbox is full. -/
def droppedAt (slot : Nat) (c : Connection) (a : Action) : List Event :=
  match c.hub.clients[slot]? with
  | some x => x.missed (c.dispatched a)
  | none => []

/-- The tracked transactions follow the events that are handed out. -/
theorem mem_tracker_step (c : Connection) (a : Action) (id : Txid) :
    id ∈ (c.step a).hub.tracker ↔
      id ∈ Event.replay (fun _ => false) c.hub.tracker (c.dispatched a) := by
  have hreplay : Event.replay (fun _ => false) c.hub.tracker (c.dispatched a) =
      (c.changesAt a).foldl Distinct.change c.hub.tracker := Event.replay_eq_foldl_change _ _
  rw [hreplay]
  cases c.mempool_step a with
  | rest htracker _ hchanges =>
    rw [hchanges, htracker]
    rfl
  | pushed e ha he =>
    subst ha
    cases e with
    | blockConnected b => cases he
    | transactionAdded t => rfl
    | transactionRemoved gone => rfl
  | listed listing hchanges htracker =>
    rw [hchanges, htracker, Distinct.foldl_change_gone, Distinct.mem_eraseAll, Delta.mem_removed]
    exact and_congr_right fun hid => by simp [hid]
  | failed _ _ _ htracker _ hchanges =>
    rw [hchanges, htracker]
    rfl
  | arrived _ _ t _ _ _ _ htracker _ hchanges =>
    rw [hchanges, htracker]
    rfl

/-- As long as the client at `slot` is in the fan-out, it has not been stopped, and its mirror lies
within the tracked transactions when the events in hand have been dealt with. -/
def Mirrored (slot : Nat) (c : Connection) : Prop :=
  ∀ x, c.hub.clients[slot]? = some x →
    x.Orderly ∧ (x.registered = true → x.Trails c.hub.tracker)

theorem Mirrored.step {slot : Nat} {c : Connection} {a : Action} (h : c.Mirrored slot)
    (hpast : ∀ t, a ≠ .receiveTransaction slot t)
    (hkept : ∀ id, .transactionRemoved id ∉ c.droppedAt slot a) : (c.step a).Mirrored slot := by
  intro y hy
  refine ⟨orderly_step (fun x hx => (h x hx).1) hy, fun hin => ?_⟩
  cases hx : c.hub.clients[slot]? with
  | none =>
    obtain ⟨_, _, _, rfl⟩ := newClient_of_free slot c hx hy
    exact fun id hid => absurd hid (Distinct.not_mem_empty id)
  | some x =>
    obtain ⟨horderly, htrails⟩ := h x hx
    have hbefore : x.registered = true := registered_of_step hx hy hin
    have htracked : ∀ id ∈ Event.replay (fun _ => false) c.hub.tracker (c.dispatched a),
        id ∈ (c.step a).hub.tracker := fun id hid => (c.mem_tracker_step a id).2 hid
    rcases offered_or_clientStep hx hy with rfl | ⟨hnone, hstep⟩
    · have hmissed : c.droppedAt slot a = x.missed (c.dispatched a) := by
        rw [droppedAt, hx]
      rw [hmissed] at hkept
      have hoffered := (htrails hbefore).offerAll hbefore (horderly hbefore).1 hkept
      exact hoffered.congr rfl (fun _ hid => hid) htracked
    · rw [hnone] at htracked
      have hlater : y.Trails c.hub.tracker := by
        cases hstep with
        | moves _ hm =>
          exact Trails.moves htrails horderly hm (not_given_of_dispatched hnone slot) hin
        | watchScript s => exact htrails hin
        | watchOutpoints l => exact htrails hin
        | receiveTransaction t => exact absurd rfl (hpast t)
        | receiveBlock b =>
          exact (htrails hbefore).congr (x.hand_received b) (x.mirror_received b) fun _ hid => hid
      exact hlater.congr rfl (fun _ hid => hid) htracked

theorem Mirrored.run {slot : Nat} {c : Connection} {actions : List Action} (h : c.Mirrored slot)
    (hpast : ∀ t, .receiveTransaction slot t ∉ actions)
    (hkept : ∀ id, .transactionRemoved id ∉ c.trace (droppedAt slot) actions) :
    (c.run actions).Mirrored slot := by
  induction actions generalizing c with
  | nil => exact h
  | cons a rest ih =>
    simp only [trace_cons, List.mem_append, not_or] at hkept
    apply ih
    · apply h.step
      · rintro t rfl
        exact hpast t List.mem_cons_self
      · exact fun id => (hkept id).1
    · exact fun t ht => hpast t (List.mem_cons_of_mem _ ht)
    · exact fun id => (hkept id).2

/-- A client that is in the fan-out and has lost no removal has nothing in its mirror that is not
tracked, when the events in its inbox have been taken, whichever of the blocks among them are
applied. When its inbox is empty, nothing is in its mirror that is not tracked. -/
theorem mirror_within_tracker (config : BackendConfig) (best : Stamp) (actions : List Action)
    {slot : Nat} {x : Client}
    (hx : ((opened config best).run actions).hub.clients[slot]? = some x)
    (hin : x.registered = true) (hpast : ∀ t, .receiveTransaction slot t ∉ actions)
    (hkept : ∀ id, .transactionRemoved id ∉ (opened config best).trace (droppedAt slot) actions) :
    let tracked := ((opened config best).run actions).hub.tracker
    (∀ applied, ∀ id ∈ Event.replay applied x.mirror x.inbox, id ∈ tracked) ∧
      (x.inbox = [] → ∀ id ∈ x.mirror, id ∈ tracked) := by
  intro tracked
  have hopened : (opened config best).Mirrored slot := fun _ hnone => nomatch hnone
  obtain ⟨horderly, htrails⟩ := hopened.run hpast hkept x hx
  have hhand : Event.replay (fun _ => false) x.mirror x.hand =
      Event.replay (fun _ => false) x.mirror x.inbox := by
    rw [hand, (horderly hin).2, Event.replay_append, Event.replay_blocks]
    rfl
  have hall (applied : PlacedBlock → Bool) :
      ∀ id ∈ Event.replay applied x.mirror x.inbox, id ∈ tracked := by
    intro id hid
    apply htrails hin id
    rw [hhand]
    exact Event.replay_mono (fun _ h => h) x.inbox id hid
  refine ⟨hall, fun hempty id hid => hall (fun _ => false) id ?_⟩
  rw [hempty]
  exact hid

/-- A payment is taken from the inbox, and then its removal waits there. -/
def waitingRemoval : List Action :=
  [.newClient, .watchScript 0 [4], .startClient 0, .push (.transactionAdded samplePaying),
    .handle 0, .push (.transactionRemoved samplePaying.txid)]

theorem waiting_removal_clears_mirror :
    let c := (opened .standard ⟨5, .zero⟩).run waitingRemoval
    samplePaying.txid ∉ c.hub.tracker ∧ ∃ x, c.hub.clients[0]? = some x ∧
      samplePaying.txid ∈ x.mirror ∧
      ∀ applied, samplePaying.txid ∉ Event.replay applied x.mirror x.inbox := by
  intro c
  have hgone : samplePaying.txid ∉ c.hub.tracker := by
    intro htracked
    exact (Distinct.mem_erase.1 htracked).1 rfl
  obtain ⟨x, hx, hin, hmirror⟩ : ∃ x, c.hub.clients[0]? = some x ∧ x.registered = true ∧
      x.mirror.items = [samplePaying.txid] := ⟨_, rfl, rfl, rfl⟩
  have hpast : ∀ t, .receiveTransaction 0 t ∉ waitingRemoval := by
    simp [waitingRemoval]
  have hkept : ∀ id, .transactionRemoved id ∉
      (opened .standard ⟨5, .zero⟩).trace (droppedAt 0) waitingRemoval := by
    have hnone : (opened .standard ⟨5, .zero⟩).trace (droppedAt 0) waitingRemoval = [] := rfl
    rw [hnone]
    exact fun _ hid => nomatch hid
  obtain ⟨hall, _⟩ := mirror_within_tracker .standard ⟨5, .zero⟩ waitingRemoval hx hin hpast hkept
  refine ⟨hgone, x, hx, ?_, fun applied hid => hgone (hall applied _ hid)⟩
  rw [Distinct.mem_def, hmirror]
  exact List.mem_singleton_self _

end Connection

end ChainFeed
