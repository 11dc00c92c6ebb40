import ChainFeed.Proofs.Run.Calls

/-!
# The course of a stop

A stop takes everyone out of the fan-out and tells the clients one by one. Until it has told them
all, those that are left stand in `closing`; when none is left, it shuts the pollers down. Nothing
else does.
-/

namespace ChainFeed

open Client

namespace Hub

section
variable (h : Hub)

theorem shutdown_dispatch (e : Event) : (h.dispatch e).1.shutdown = h.shutdown := by
  cases e with
  | blockConnected b => exact shutdown_advance _ _
  | transactionAdded t => rfl
  | transactionRemoved id => rfl

theorem shutdown_removals (ids : List Txid) :
    (ids.foldl (fun h id => (h.dispatchRemoval id).1) h).shutdown = h.shutdown := by
  induction ids generalizing h with
  | nil => rfl
  | cons id rest ih => exact ih _

theorem shutdown_fetchNext (report : TxTick) (ids : List Txid) :
    (h.fetchNext report ids).1.shutdown = h.shutdown := by
  cases ids with
  | nil => rfl
  | cons id rest =>
    rw [fetchNext]
    split <;> rfl

theorem shutdown_bestArrived (answer : Except Error Stamp) :
    (h.bestArrived answer).1.shutdown = h.shutdown := by
  unfold bestArrived
  split
  · rfl
  · split
    · split <;> rfl
    · rfl
  · rfl

theorem shutdown_blockArrived (answer : Except Error Block) :
    (h.blockArrived answer).1.shutdown = h.shutdown := by
  unfold blockArrived
  split
  · rfl
  · next next _ _ block _ =>
    have hblock : (h.countPolledBlock.dispatchBlock ⟨next, block⟩).1.shutdown = h.shutdown :=
      shutdown_advance _ _
    dsimp only
    split
    · exact hblock
    · exact hblock
  · rfl

theorem shutdown_listingArrived (answer : Except Error (List Txid)) :
    (h.listingArrived answer).1.shutdown = h.shutdown := by
  unfold listingArrived
  split
  · rfl
  · dsimp only
    split
    · rfl
    · rw [shutdown_fetchNext, shutdown_removals]
      rfl
  · rfl

theorem shutdown_transactionArrived (answer : Except Error Transaction) :
    (h.transactionArrived answer).1.shutdown = h.shutdown := by
  unfold transactionArrived
  split
  · exact shutdown_fetchNext _ _ _
  · exact shutdown_fetchNext _ _ _
  · rfl

theorem shutdown_stopClient (n : Nat) : (h.stopClient n).shutdown = h.shutdown := by
  unfold stopClient
  split <;> rfl

theorem shutdown_register (n : Nat) : (h.register n).shutdown = h.shutdown := by
  unfold register
  split <;> rfl

theorem shutdown_resumeCatchUp (n : Nat) (answer : Except Error Block) :
    (h.resumeCatchUp n answer).1.shutdown = h.shutdown := by
  unfold resumeCatchUp
  split
  · rfl
  · split
    · rfl
    · dsimp only
      split <;> rfl

theorem shutdown_startClient {n : Nat} {k : Hub} {b : Bool} (hk : h.startClient n = .ok (k, b)) :
    k.shutdown = h.shutdown := by
  unfold startClient at hk
  cases hn : h.clients[n]? with
  | none =>
    rw [hn] at hk
    cases hk
    rfl
  | some x =>
    cases hx : x.start with
    | error e => simp [hn, hx, Bind.bind, Except.bind] at hk
    | ok r =>
      obtain ⟨rfl, _⟩ : h.modifyClient n (fun _ => r.1) = k ∧ r.2 = b := by
        simpa [hn, hx, Bind.bind, Except.bind, pure, Except.pure] using hk
      rfl

end

def HasStopped (slot : Nat) (h : Hub) : Prop :=
  ∃ x, h.clients[slot]? = some x ∧ x.isStopped = true

section
variable {slot : Nat} {h k : Hub}

theorem HasStopped.of_dismisses (hs : h.HasStopped slot) (hk : h.Dismisses slot k) :
    k.HasStopped slot := by
  obtain ⟨x, hx, hstopped⟩ := hs
  obtain ⟨y, hy, hxy⟩ := hk x hx
  refine ⟨y, hy, ?_⟩
  cases hxy with
  | kept => exact hstopped
  | withdrawn => exact hstopped
  | stopped => rfl

theorem hasStopped_stopClient {x : Client} (hx : h.clients[slot]? = some x) :
    (h.stopClient slot).HasStopped slot := by
  refine ⟨x.stop.withdraw x.id, ?_, ?_⟩
  · rw [h.getElem?_stopClient slot hx, hx, Option.map_some, if_pos rfl]
  · rw [withdraw_of_eq (show x.stop.id = x.id from rfl)]
    rfl

end

end Hub

namespace Connection

open Hub

section
variable (c : Connection)

theorem shutdown_recordTick {α : Type} (r : Hub × Option (Except Error α)) :
    (recordTick r).shutdown = r.1.shutdown := by
  unfold recordTick
  split <;> rfl

/-- Nothing but a stop and its continuation shuts the pollers down. -/
theorem shutdown_of_not_stop {a : Action} (hstop : ∀ order, a ≠ .stop order)
    (hcontinue : a ≠ .continueStop) : (c.step a).hub.shutdown = c.hub.shutdown := by
  cases a with
  | stop order => exact absurd rfl (hstop order)
  | continueStop => exact absurd rfl hcontinue
  | newClient =>
    cases hs : c.stopped with
    | true => rw [c.newClient_of_stopped hs]
    | false =>
      simp only [step, newClient, hs, Bool.false_eq_true, if_false]
      exact shutdown_register _ _
  | start =>
    simp only [step, start]
    split <;> rfl
  | startClient n =>
    simp only [step]
    split
    · next hub _ hk => exact c.hub.shutdown_startClient hk
    · rfl
  | stopClient n => exact c.hub.shutdown_stopClient n
  | answerClient n source =>
    simp only [step, answerClient]
    split
    · rfl
    · exact c.hub.shutdown_resumeCatchUp n _
  | tickBlocks =>
    simp only [step]
    split
    · simp only [onHub, beginBlockTick]
      split <;> rfl
    · rfl
  | answerBlockPoller source =>
    simp only [step, answerBlockPoller]
    split
    · rfl
    · exact (shutdown_recordTick _).trans (c.hub.shutdown_bestArrived _)
    · exact (shutdown_recordTick _).trans (c.hub.shutdown_blockArrived _)
  | tickTransactions =>
    simp only [step]
    split
    · simp only [onHub, beginTxTick]
      split <;> rfl
    · rfl
  | answerTxPoller source =>
    simp only [step, answerTxPoller]
    split
    · rfl
    · exact (shutdown_recordTick _).trans (c.hub.shutdown_listingArrived _)
    · exact (shutdown_recordTick _).trans (c.hub.shutdown_transactionArrived _)
  | push e => exact c.hub.shutdown_dispatch e
  | _ => rfl

/-- The pollers are shut down when every client has been told, and not before. -/
theorem closeClients_ends (slots : List Nat) :
    ((c.closeClients slots).hub.shutdown = true ∧ (c.closeClients slots).closing = [] ∧
      (c.closeClients slots).awaited = none) ∨
    (c.closeClients slots).hub.shutdown = c.hub.shutdown := by
  induction slots generalizing c with
  | nil => exact .inl ⟨rfl, rfl, rfl⟩
  | cons n rest ih =>
    rw [closeClients]
    split
    · exact .inr (c.hub.shutdown_stopClient n)
    · obtain hend | hsame := ih { c with hub := c.hub.stopClient n }
      · exact .inl hend
      · exact .inr (hsame.trans (c.hub.shutdown_stopClient n))

/-- Every client of the list is told or still to tell. -/
theorem closeClients_tells {slots : List Nat} {slot : Nat} (hslot : slot ∈ slots) {x : Client}
    (hx : c.hub.clients[slot]? = some x) :
    (c.closeClients slots).hub.HasStopped slot ∨ slot ∈ (c.closeClients slots).closing := by
  induction slots generalizing c x with
  | nil => cases hslot
  | cons n rest ih =>
    rw [closeClients]
    have hfirst (hn : n = slot) : (c.hub.stopClient n).HasStopped slot := by
      subst hn
      exact hasStopped_stopClient hx
    obtain rfl | hrest := List.mem_cons.1 hslot
    · have htold : (c.hub.stopClient slot).HasStopped slot := hfirst rfl
      split
      · exact .inl htold
      · exact .inl (htold.of_dismisses
          (dismisses_closeClients slot { c with hub := c.hub.stopClient slot } rest))
    · obtain ⟨y, hy, _⟩ := c.hub.dismisses_stopClient slot n x hx
      split
      · exact .inr hrest
      · exact ih { c with hub := c.hub.stopClient n } hrest hy

end

/-- A stopped connection has nobody in its fan-out, and when it has shut down its pollers it has
told every client. -/
structure Winding (c : Connection) : Prop where
  withdrawn : c.stopped = true →
    ∀ (slot : Nat) (x : Client), c.hub.clients[slot]? = some x → x.registered = false
  told : c.hub.shutdown = true → c.stopped = true ∧ c.closing = [] ∧ c.awaited = none
  waiting : c.awaited ≠ none → c.stopped = true

namespace Winding

variable {c : Connection}

theorem opened (config : BackendConfig) (best : Stamp) : (opened config best).Winding :=
  ⟨nofun, nofun, fun h => absurd rfl h⟩

theorem registered_stop (hs : c.stopped = false) {order : List Nat} {slot : Nat} {y : Client}
    (hy : (c.step (.stop order)).hub.clients[slot]? = some y) : y.registered = false := by
  obtain ⟨x, hx⟩ : ∃ x, c.hub.clients[slot]? = some x := by
    refine Option.ne_none_iff_exists'.1 fun hnone => ?_
    have hfree : (c.step (.stop order)).hub.clients[slot]? = none := c.step_free slot nofun hnone
    cases hfree.symm.trans hy
  have hout : c.hub.unregisterAll.clients[slot]? = some { x with registered := false } := by
    rw [getElem?_unregisterAll, hx]
    rfl
  obtain ⟨z, hz, hxz⟩ := dismisses_closeClients slot
    { c with hub := c.hub.unregisterAll, stopped := true } (c.registeredSlots order) _ hout
  rw [← step_stop hs] at hz
  obtain rfl : z = y := Option.some.inj (hz.symm.trans hy)
  cases hxz <;> rfl

theorem withdrawn_step (h : c.Winding) (a : Action) (hs : (c.step a).stopped = true) {slot : Nat}
    {y : Client} (hy : (c.step a).hub.clients[slot]? = some y) : y.registered = false := by
  have hkept (hbefore : c.stopped = true) : y.registered = false := by
    cases hx : c.hub.clients[slot]? with
    | none =>
      obtain ⟨hrunning, _⟩ := newClient_of_free slot c hx hy
      cases hrunning.symm.trans hbefore
    | some x =>
      cases hin : y.registered with
      | false => rfl
      | true => exact (registered_of_step hx hy hin).symm.trans (h.withdrawn hbefore slot x hx)
  cases c.life_step a with
  | same _ _ hlife => exact hkept (hlife.stopped.symm.trans hs)
  | made _ _ hlife => exact hkept (hlife.stopped.symm.trans hs)
  | begun _ _ hlife => exact hkept (hlife.stopped.symm.trans hs)
  | ended ha hrunning _ =>
    subst ha
    exact registered_stop hrunning hy
  | continued _ hlife => exact hkept (hlife.stopped.symm.trans hs)

theorem continueStop_of_not_waiting (hawaited : c.awaited = none) :
    c.step .continueStop = c := by
  simp only [step, continueStop, hawaited]

theorem waiting_step (h : c.Winding) (a : Action) (hawaited : (c.step a).awaited ≠ none) :
    (c.step a).stopped = true := by
  cases c.life_step a with
  | same _ _ hlife => exact hlife.stopped.trans (h.waiting (hlife.awaited ▸ hawaited))
  | made _ _ hlife => exact hlife.stopped.trans (h.waiting (hlife.awaited ▸ hawaited))
  | begun _ _ hlife => exact hlife.stopped.trans (h.waiting (hlife.awaited ▸ hawaited))
  | ended _ _ hlife => exact hlife.stopped
  | continued ha hlife =>
    refine hlife.stopped.trans (h.waiting fun hnone => hawaited ?_)
    rw [ha, continueStop_of_not_waiting hnone, hnone]

/-- A step that changes the shutdown goes through the clients of a stopped connection. -/
theorem closes_of_shutdown (h : c.Winding) {a : Action}
    (hchanged : (c.step a).hub.shutdown ≠ c.hub.shutdown) : ∃ (d : Connection) (slots : List Nat),
    c.step a = d.closeClients slots ∧ d.stopped = true ∧ d.hub.shutdown = c.hub.shutdown := by
  by_cases hstop : ∃ order, a = .stop order
  · obtain ⟨order, rfl⟩ := hstop
    cases hs : c.stopped with
    | true =>
      refine absurd ?_ hchanged
      simp only [step, stop, hs, if_true]
    | false =>
      exact ⟨{ c with hub := c.hub.unregisterAll, stopped := true }, c.registeredSlots order,
        step_stop hs order, rfl, rfl⟩
  · by_cases hcontinue : a = .continueStop
    · subst hcontinue
      cases hn : c.awaited with
      | none =>
        refine absurd ?_ hchanged
        rw [continueStop_of_not_waiting hn]
      | some n =>
        have hstep : c.step .continueStop =
            if c.hub.clients[n]?.any Client.isLeaving then c else c.closeClients c.closing := by
          simp only [step, continueStop, hn]
        have hdone : ¬ c.hub.clients[n]?.any Client.isLeaving = true := by
          intro hleaving
          rw [hstep, if_pos hleaving] at hchanged
          exact hchanged rfl
        exact ⟨c, c.closing, hstep.trans (if_neg hdone), h.waiting (by simp [hn]), rfl⟩
    · exact absurd (c.shutdown_of_not_stop (not_exists.1 hstop) hcontinue) hchanged

/-- The step that shuts the pollers down has told the last client. -/
theorem last_told (h : c.Winding) {a : Action} (hbefore : c.hub.shutdown = false)
    (hshutdown : (c.step a).hub.shutdown = true) :
    (c.step a).stopped = true ∧ (c.step a).closing = [] ∧ (c.step a).awaited = none := by
  obtain ⟨d, slots, hstep, hs, hd⟩ := h.closes_of_shutdown (a := a) (by simp [hbefore, hshutdown])
  rw [hstep] at hshutdown ⊢
  refine ⟨(d.sameLife_closeClients slots).stopped.trans hs, ?_⟩
  obtain ⟨_, hend⟩ | hsame := d.closeClients_ends slots
  · exact hend
  · rw [hsame, hd, hbefore] at hshutdown
    cases hshutdown

theorem told_step (h : c.Winding) (a : Action) (hshutdown : (c.step a).hub.shutdown = true) :
    (c.step a).stopped = true ∧ (c.step a).closing = [] ∧ (c.step a).awaited = none := by
  cases hbefore : c.hub.shutdown with
  | true =>
    obtain ⟨hs, hclosing, hawaited⟩ := h.told hbefore
    cases c.life_step a with
    | same _ _ hlife =>
      exact ⟨hlife.stopped.trans hs, hlife.closing.trans hclosing, hlife.awaited.trans hawaited⟩
    | made _ hrunning => cases hs.symm.trans hrunning
    | begun _ hrunning => cases hs.symm.trans hrunning
    | ended _ hrunning => cases hs.symm.trans hrunning
    | continued ha =>
      rw [ha, continueStop_of_not_waiting hawaited]
      exact ⟨hs, hclosing, hawaited⟩
  | false => exact h.last_told hbefore hshutdown

theorem step (h : c.Winding) (a : Action) : (c.step a).Winding :=
  ⟨fun hs _ _ hy => h.withdrawn_step a hs hy, h.told_step a, h.waiting_step a⟩

theorem run (h : c.Winding) (actions : List Action) : (c.run actions).Winding :=
  keep_run (fun a hd => hd.step a) actions h

end Winding

/-- A stop has begun that will tell the client at `slot`, or has told it. -/
def Closes (slot : Nat) (c : Connection) : Prop :=
  c.stopped = true ∧
    ∃ x, c.hub.clients[slot]? = some x ∧ (x.isStopped = true ∨ slot ∈ c.closing)

namespace Closes

variable {slot : Nat} {c : Connection}

theorem of_tells {d : Connection} (hs : d.stopped = true)
    (hd : d.hub.HasStopped slot ∨ slot ∈ d.closing) {y : Client}
    (hy : d.hub.clients[slot]? = some y) : d.Closes slot := by
  refine ⟨hs, ?_⟩
  obtain ⟨x, hx, hstopped⟩ | hclosing := hd
  · exact ⟨x, hx, .inl hstopped⟩
  · exact ⟨y, hy, .inr hclosing⟩

/-- A stop is going to tell everyone who is registered when it begins. -/
theorem stop {x : Client} (hrunning : c.stopped = false) (hx : c.hub.clients[slot]? = some x)
    (hin : x.registered = true) (order : List Nat) : (c.step (.stop order)).Closes slot := by
  have hslot : slot ∈ c.registeredSlots order := mem_registeredSlots.2 (by simp [hx, hin])
  obtain ⟨y, hy, _⟩ := c.hub.dismisses_unregisterAll slot x hx
  obtain ⟨z, hz, _⟩ := c.step_client slot (.stop order) hx
  refine of_tells (c.sameLife_stop hrunning order).stopped ?_ hz
  rw [step_stop hrunning order]
  exact closeClients_tells { c with hub := c.hub.unregisterAll, stopped := true } hslot hy

theorem step (h : c.Closes slot) (a : Action) : (c.step a).Closes slot := by
  obtain ⟨hs, x, hx, hstate⟩ := h
  obtain ⟨y, hy, _⟩ := c.step_client slot a hx
  have hs' := c.stopped_step a hs
  obtain hstopped | hclosing := hstate
  · exact ⟨hs', y, hy, .inl (isStopped_step hx hy hstopped)⟩
  · cases c.life_step a with
    | same _ _ hlife => exact ⟨hs', y, hy, .inr (hlife.closing ▸ hclosing)⟩
    | made _ hrunning => cases hs.symm.trans hrunning
    | begun _ hrunning => cases hs.symm.trans hrunning
    | ended _ hrunning => cases hs.symm.trans hrunning
    | continued ha =>
      subst ha
      refine of_tells hs' ?_ hy
      simp only [Connection.step, Connection.continueStop]
      split
      · exact .inr hclosing
      · split
        · exact .inr hclosing
        · exact c.closeClients_tells hclosing hx

theorem run (h : c.Closes slot) (actions : List Action) : (c.run actions).Closes slot :=
  keep_run (fun a hd => hd.step a) actions h

/-- When a stop has shut the pollers down, every client that it took out is stopped. -/
theorem hasStopped (h : c.Closes slot) (hwinding : c.Winding) (hshutdown : c.hub.shutdown = true) :
    c.hub.HasStopped slot := by
  obtain ⟨_, x, hx, hstopped | hclosing⟩ := h
  · exact ⟨x, hx, hstopped⟩
  · rw [(hwinding.told hshutdown).2.1] at hclosing
    cases hclosing

end Closes

end Connection

end ChainFeed
