import ChainFeed.Proofs.Run.Conservation
import ChainFeed.Proofs.Run.Operations
import ChainFeed.Proofs.Run.Overtaking

/-!
# No unconfirmed transaction is told of twice

A transaction is told of as unconfirmed when its addition is taken while its id is absent from the
mirror, and it is there afterwards. So before it can be told of again the id has to leave the
mirror. Three things take it out: a removal, a block that the handler applies, and a block that was
fetched.
-/

namespace ChainFeed

namespace Client

variable {x : Client}

/-- Blocks are no reason to tell of an unconfirmed transaction. -/
theorem collect_announces_blocks (x : Client) (l : List PlacedBlock) :
    x.collect announces (l.map .block) = [] := by
  induction l generalizing x with
  | nil => rfl
  | cons b rest ih => exact ih (x.perform (.block b))

theorem collect_announces_answer (x : Client) (answer : Except Error Block) :
    x.collect announces (x.answerOperations answer) = [] := by
  cases hu : x.catchUp with
  | none =>
    simp only [answerOperations, hu]
    rfl
  | some u =>
    cases answer with
    | error e =>
      simp only [answerOperations, hu]
      rfl
    | ok block =>
      simp only [answerOperations, hu]
      split
      · exact x.collect_announces_blocks (⟨u.next, block⟩ :: u.cause.toList)
      · rfl

/-- In a step at most one transaction is told of as unconfirmed, and nothing else is done then. -/
theorem collect_announces_operations (x : Client) (a : Action) :
    x.collect announces (x.operations a) = [] ∨ ∃ t, x.operations a = [.addition t] := by
  cases a with
  | handle n =>
    change x.collect announces x.handleOperations = [] ∨ ∃ t, x.handleOperations = [.addition t]
    unfold handleOperations
    split
    · left
      split <;> rfl
    · cases x.next? with
      | none => exact .inl rfl
      | some e =>
        rw [Option.toList_some, List.flatMap_singleton]
        cases e with
        | blockConnected b =>
          left
          simp only [eventOperations]
          split <;> rfl
        | transactionAdded t => exact .inr ⟨t, rfl⟩
        | transactionRemoved id => exact .inl rfl
  | answerClient n source => exact .inl (x.collect_announces_answer _)
  | _ => exact .inl rfl

theorem removal_not_mem_answer (x : Client) (answer : Except Error Block) (id : Txid) :
    .removal id ∉ x.answerOperations answer := by
  intro h
  unfold answerOperations at h
  split at h
  · obtain h | h := List.mem_cons.1 h
    · cases h
    · split at h
      · obtain ⟨b, _, hb⟩ := List.mem_map.1 h
        cases hb
      · cases h
  · cases h

/-- A removal is only done when the handler takes it. -/
theorem next?_of_removal {a : Action} {id : Txid} (h : .removal id ∈ x.operations a) :
    (∃ n, a = .handle n) ∧ x.next? = some (.transactionRemoved id) := by
  cases a with
  | handle n =>
    refine ⟨⟨n, rfl⟩, ?_⟩
    change .removal id ∈ x.handleOperations at h
    unfold handleOperations at h
    split at h
    · split at h
      · cases h
      · cases List.mem_singleton.1 h
    · obtain ⟨e, he, hop⟩ := List.mem_flatMap.1 h
      cases e with
      | blockConnected b =>
        simp only [eventOperations] at hop
        split at hop
        · cases hop
        · cases List.mem_singleton.1 hop
      | transactionAdded t => cases List.mem_singleton.1 hop
      | transactionRemoved id' =>
        cases List.mem_singleton.1 hop
        exact Option.mem_toList.1 he
  | answerClient n source =>
    exact absurd h (x.removal_not_mem_answer _ id)
  | watchScript n s => cases List.mem_singleton.1 h
  | watchOutpoints n l => cases List.mem_singleton.1 h
  | receiveBlock n b => cases List.mem_singleton.1 h
  | receiveTransaction n t => cases List.mem_singleton.1 h
  | _ => cases h

end Client

namespace Connection

open Client

/-- The transactions that the subscriber of the client at `slot` is told of as unconfirmed in a
step. -/
def unconfirmedAt (slot : Nat) (c : Connection) (a : Action) : List Transaction :=
  (c.notesAt slot a).filterMap Notification.unconfirmed?

/-- The blocks that the client at `slot` applies in a step. -/
def appliedAt (slot : Nat) (c : Connection) (a : Action) : List PlacedBlock :=
  match c.hub.clients[slot]? with
  | some x => x.collect applies (c.operationsAt slot a)
  | none => []

section
variable {slot : Nat} {c : Connection} {a : Action} {x y : Client} {t : Transaction}

/-- What has been told stays told. -/
theorem sent_step (hx : c.hub.clients[slot]? = some x)
    (hy : (c.step a).hub.clients[slot]? = some y) : y.sent = x.sent ++ c.notesAt slot a := by
  have hnotes : ∃ notes, y.sent = x.sent ++ notes := by
    cases clientStep_of_getElem? hx hy with
    | moves _ hm =>
      obtain ⟨notes, hnotes⟩ := hm.learned
      exact ⟨notes, hnotes.sent⟩
    | watchScript s => exact ⟨[], (List.append_nil _).symm⟩
    | watchOutpoints l => exact ⟨[], (List.append_nil _).symm⟩
    | receiveTransaction t =>
      exact ⟨[], (x.sent_receiveTransaction t).trans (List.append_nil _).symm⟩
    | receiveBlock b => exact ⟨[], (x.sent_received b).trans (List.append_nil _).symm⟩
  obtain ⟨notes, hsent⟩ := hnotes
  rw [notesAt_eq hx hy hsent, hsent]

theorem unconfirmedAt_eq (hx : c.hub.clients[slot]? = some x) :
    c.unconfirmedAt slot a = x.collect announces (c.operationsAt slot a) := by
  obtain ⟨y, hy, _⟩ := c.step_client slot a hx
  have htold : y.unconfirmed = x.unconfirmed ++ c.unconfirmedAt slot a := by
    rw [unconfirmed, sent_step hx hy, List.filterMap_append, unconfirmed, unconfirmedAt]
  have haccount : y.unconfirmed = (x.performAll (c.operationsAt slot a)).unconfirmed :=
    congrArg Account.unconfirmed (account_step hx hy)
  rw [htold, unconfirmed_performAll] at haccount
  exact List.append_cancel_left haccount

theorem unconfirmedAt_cases (hx : c.hub.clients[slot]? = some x) (a : Action) :
    c.unconfirmedAt slot a = [] ∨ ∃ t, c.operationsAt slot a = [.addition t] ∧
      c.unconfirmedAt slot a = x.announces (.addition t) := by
  rw [unconfirmedAt_eq hx]
  by_cases ha : a.subject = some slot
  · rw [operationsAt_of_subject hx ha]
    obtain h | ⟨t, h⟩ := x.collect_announces_operations a
    · exact .inl h
    · rw [h]
      exact .inr ⟨t, rfl, List.append_nil _⟩
  · rw [operationsAt_of_ne ha]
    exact .inl rfl

/-- What is told of as unconfirmed was absent from the mirror, and is there then. -/
theorem mirror_of_unconfirmedAt (hx : c.hub.clients[slot]? = some x)
    (hy : (c.step a).hub.clients[slot]? = some y) (ht : t ∈ c.unconfirmedAt slot a) :
    t.txid ∉ x.mirror ∧ t.txid ∈ y.mirror := by
  obtain hnone | ⟨t', hops, htold⟩ := unconfirmedAt_cases hx a
  · rw [hnone] at ht
    cases ht
  · rw [htold] at ht
    have haccount := account_step hx hy
    rw [hops] at haccount
    have hmirror : y.mirror = (x.perform (.addition t')).mirror :=
      congrArg Account.mirror haccount
    rw [hmirror]
    exact mirror_of_announces ht

theorem exists_of_mem_unconfirmedAt (ht : t ∈ c.unconfirmedAt slot a) :
    ∃ x, c.hub.clients[slot]? = some x := by
  obtain ⟨n, hn, _⟩ := List.mem_filterMap.1 ht
  exact exists_of_mem_notesAt hn

theorem length_unconfirmedAt_le (slot : Nat) (c : Connection) (a : Action) :
    (c.unconfirmedAt slot a).length ≤ 1 := by
  cases hx : c.hub.clients[slot]? with
  | none =>
    have hnone : c.unconfirmedAt slot a = [] := by
      simp only [unconfirmedAt, notesAt, hx, List.filterMap_nil]
    rw [hnone]
    exact Nat.zero_le 1
  | some x =>
    obtain hnone | ⟨t, _, htold⟩ := unconfirmedAt_cases hx a
    · rw [hnone]
      exact Nat.zero_le 1
    · rw [htold, announces]
      split
      · exact Nat.zero_le 1
      · exact Nat.le_refl 1

theorem mem_handledAt {e : Event} (hx : c.hub.clients[slot]? = some x)
    (he : e ∈ c.handledAt slot a) : a = .handle slot ∧ x.next? = some e := by
  have ha : a = .handle slot := by
    by_contra hne
    rw [handledAt_of_not_handle hne] at he
    cases he
  subst ha
  simpa [handledAt, hx] using he

theorem handledAt_eq (hx : c.hub.clients[slot]? = some x) (ha : a = .handle slot) :
    c.handledAt slot a = x.next?.toList := by
  subst ha
  simp [handledAt, hx]

/-- An id leaves the mirror in a step when the handler takes its removal, or a block that contains
it is applied. -/
theorem removed_or_applied {id : Txid} (hx : c.hub.clients[slot]? = some x)
    (hy : (c.step a).hub.clients[slot]? = some y) (hin : id ∈ x.mirror) (hout : id ∉ y.mirror) :
    .transactionRemoved id ∈ c.handledAt slot a ∨
      ∃ b ∈ c.appliedAt slot a, id ∈ b.block.txids := by
  have hmirror : y.mirror = (x.performAll (c.operationsAt slot a)).mirror :=
    congrArg Account.mirror (account_step hx hy)
  rw [hmirror] at hout
  obtain ⟨before, op, after, hops, hclears⟩ := mem_collect.1 (mem_collect_clears hin hout)
  obtain rfl | ⟨b, hb, hid⟩ := mem_clears.1 hclears
  · left
    have hop : .removal id ∈ c.operationsAt slot a := hops ▸ List.mem_append_right _
      List.mem_cons_self
    have ha : a.subject = some slot := by
      by_contra hne
      rw [operationsAt_of_ne hne] at hop
      cases hop
    rw [operationsAt_of_subject hx ha] at hop
    obtain ⟨⟨n, rfl⟩, hnext⟩ := next?_of_removal hop
    obtain rfl : n = slot := Option.some.inj ha
    rw [handledAt_eq hx rfl, hnext]
    exact List.mem_singleton_self _
  · right
    have happlied : b ∈ c.appliedAt slot a := by
      rw [appliedAt, hx]
      exact mem_collect.2 ⟨before, op, after, hops, hb⟩
    exact ⟨b, happlied, hid⟩

/-- An id that is gone from the mirror has left it in one of the steps. -/
theorem exists_step_of_leaves {id : Txid} {actions : List Action}
    (hx : c.hub.clients[slot]? = some x) (hy : (c.run actions).hub.clients[slot]? = some y)
    (hin : id ∈ x.mirror) (hout : id ∉ y.mirror) :
    ∃ earlier d later, actions = earlier ++ d :: later ∧
      (.transactionRemoved id ∈ (c.run earlier).handledAt slot d ∨
        ∃ b ∈ (c.run earlier).appliedAt slot d, id ∈ b.block.txids) := by
  induction actions generalizing c x with
  | nil =>
    obtain rfl : x = y := Option.some.inj (hx.symm.trans hy)
    exact absurd hin hout
  | cons d rest ih =>
    obtain ⟨z, hz, _⟩ := c.step_client slot d hx
    by_cases hkept : id ∈ z.mirror
    · obtain ⟨earlier, d', later, rfl, hleaves⟩ := ih hz hy hkept
      exact ⟨d :: earlier, d', later, rfl, hleaves⟩
    · exact ⟨[], d, rest, rfl, removed_or_applied hx hz hin hkept⟩

end

/-- Between two steps in which the subscriber is told of transactions with the same id as
unconfirmed there is one in which the handler takes a removal of the id, or in which the client
applies a block that contains it, whether the block came by the inbox, had been kept, was fetched
or was handed over. In one step no two are told of. Conversely, an addition that the handler takes
while its id is absent from the mirror makes the client tell of it and of nothing else, and leaves
the id in the mirror. -/
theorem no_repeated_announcement (c : Connection) (slot : Nat) :
    (∀ a, (c.unconfirmedAt slot a).length ≤ 1) ∧
    (∀ (a b : Action) (between : List Action) (t t' : Transaction),
      t ∈ c.unconfirmedAt slot a → t' ∈ ((c.step a).run between).unconfirmedAt slot b →
      t'.txid = t.txid →
      ∃ (earlier : List Action) (d : Action) (later : List Action),
        between = earlier ++ d :: later ∧
        (.transactionRemoved t.txid ∈ ((c.step a).run earlier).handledAt slot d ∨
          ∃ block ∈ ((c.step a).run earlier).appliedAt slot d, t.txid ∈ block.block.txids)) ∧
    (∀ (a : Action) (x : Client), c.hub.clients[slot]? = some x →
      ∃ y, (c.step a).hub.clients[slot]? = some y ∧
        y.account = (x.performAll (c.operationsAt slot a)).account) ∧
    ∀ (a : Action) (x : Client) (t : Transaction), c.hub.clients[slot]? = some x →
      .transactionAdded t ∈ c.handledAt slot a → t.txid ∉ x.mirror →
      c.notesAt slot a = [.relevantTransaction t none] ∧
        ∃ y, (c.step a).hub.clients[slot]? = some y ∧ t.txid ∈ y.mirror := by
  refine ⟨length_unconfirmedAt_le slot c, ?_, ?_, ?_⟩
  · intro a b between t t' ht ht' hid
    obtain ⟨w, hw⟩ := exists_of_mem_unconfirmedAt ht
    obtain ⟨x, hx, _⟩ := c.step_client slot a hw
    obtain ⟨z, hz, _⟩ := account_run hx between
    obtain ⟨z', hz', _⟩ := ((c.step a).run between).step_client slot b hz
    have hin : t.txid ∈ x.mirror := (mirror_of_unconfirmedAt hw hx ht).2
    have hout : t.txid ∉ z.mirror := hid ▸ (mirror_of_unconfirmedAt hz hz' ht').1
    exact exists_step_of_leaves hx hz hin hout
  · intro a x hx
    obtain ⟨y, hy, _⟩ := c.step_client slot a hx
    exact ⟨y, hy, account_step hx hy⟩
  · intro a x t hx hhandled hnew
    obtain ⟨rfl, hnext⟩ := mem_handledAt hx hhandled
    obtain ⟨_, last, inbox, hhandle⟩ := handle_of_next? hnext
    have hadded : ({ x with last, inbox }).handleAdded t = _ := handleAdded_of_not_mem hnew
    have hstep := step_handle hx
    rw [hhandle.trans hadded] at hstep
    exact ⟨notesAt_eq hx hstep rfl, _, hstep, Distinct.mem_insert.2 (.inr rfl)⟩

/-- A payment waits in the inbox of a client. -/
def paymentWaiting : Connection :=
  (opened .standard ⟨5, .zero⟩).run [.newClient, .watchScript 0 [4], .startClient 0,
    .push (.transactionAdded samplePaying)]

/-- It is added again, then removed, and added once more. -/
def addedAgain : List Action :=
  [.push (.transactionAdded samplePaying), .handle 0,
    .push (.transactionRemoved samplePaying.txid), .handle 0,
    .push (.transactionAdded samplePaying)]

theorem payment_is_told_again_after_removal :
    paymentWaiting.notesAt 0 (.handle 0) = [.relevantTransaction samplePaying none] ∧
      samplePaying ∈ ((paymentWaiting.step (.handle 0)).run addedAgain).unconfirmedAt 0
        (.handle 0) ∧
      ∃ earlier d later, addedAgain = earlier ++ d :: later ∧
        (.transactionRemoved samplePaying.txid ∈
            ((paymentWaiting.step (.handle 0)).run earlier).handledAt 0 d ∨
          ∃ block ∈ ((paymentWaiting.step (.handle 0)).run earlier).appliedAt 0 d,
            samplePaying.txid ∈ block.block.txids) := by
  obtain ⟨_, hbetween, _, hadded⟩ := no_repeated_announcement paymentWaiting 0
  have hhandled : paymentWaiting.handledAt 0 (.handle 0) = [.transactionAdded samplePaying] := rfl
  have hagain : ((paymentWaiting.step (.handle 0)).run addedAgain).unconfirmedAt 0 (.handle 0) =
      [samplePaying] := by
    decide +kernel
  obtain ⟨x, hx, hnone⟩ : ∃ x, paymentWaiting.hub.clients[0]? = some x ∧ x.mirror = .empty :=
    ⟨_, rfl, rfl⟩
  have hfirst : paymentWaiting.notesAt 0 (.handle 0) = [.relevantTransaction samplePaying none] :=
    (hadded _ x samplePaying hx (hhandled ▸ List.mem_singleton_self _)
      (hnone ▸ Distinct.not_mem_empty _)).1
  have hsecond : samplePaying ∈
      ((paymentWaiting.step (.handle 0)).run addedAgain).unconfirmedAt 0 (.handle 0) :=
    hagain ▸ List.mem_singleton_self _
  have htold : samplePaying ∈ paymentWaiting.unconfirmedAt 0 (.handle 0) := by
    rw [unconfirmedAt, hfirst]
    exact List.mem_singleton_self _
  exact ⟨hfirst, hsecond,
    hbetween (.handle 0) (.handle 0) addedAgain samplePaying samplePaying htold hsecond rfl⟩

end Connection

end ChainFeed
