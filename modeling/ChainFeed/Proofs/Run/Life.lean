import ChainFeed.Proofs.Run.Effect
import Mathlib.Algebra.Group.Nat.Defs

/-!
# The life of a connection

Three actions bear on the life of a connection: one makes a client, one starts the pollers, one
begins to stop. Everything else leaves alone what they set, and the configuration never changes.
-/

namespace ChainFeed.Connection

/-- The second connection is at the same point of its life. -/
structure SameLife (c d : Connection) : Prop where
  config : d.config = c.config
  allocated : d.allocated = c.allocated
  started : d.started = c.started
  stopped : d.stopped = c.stopped
  closing : d.closing = c.closing
  awaited : d.awaited = c.awaited

theorem SameLife.refl (c : Connection) : SameLife c c := ⟨rfl, rfl, rfl, rfl, rfl, rfl⟩

variable (c : Connection)

theorem sameLife_onHub (f : Hub → Hub) : SameLife c (c.onHub f) := ⟨rfl, rfl, rfl, rfl, rfl, rfl⟩

theorem sameLife_closeClients (slots : List Nat) : SameLife { c with
    closing := (c.closeClients slots).closing
    awaited := (c.closeClients slots).awaited } (c.closeClients slots) := by
  induction slots generalizing c with
  | nil => exact ⟨rfl, rfl, rfl, rfl, rfl, rfl⟩
  | cons n rest ih =>
    rw [closeClients]
    split
    · exact ⟨rfl, rfl, rfl, rfl, rfl, rfl⟩
    · have hrest := ih { c with hub := c.hub.stopClient n }
      exact ⟨hrest.config, hrest.allocated, hrest.started, hrest.stopped, rfl, rfl⟩

theorem sameLife_continueStop : SameLife { c with
    closing := c.continueStop.closing
    awaited := c.continueStop.awaited } c.continueStop := by
  unfold continueStop
  split
  · exact .refl c
  · split
    · exact .refl c
    · exact c.sameLife_closeClients _

variable {c} in
theorem step_stop (hs : c.stopped = false) (order : List Nat) : c.step (.stop order) =
    { c with hub := c.hub.unregisterAll, stopped := true }.closeClients
      (c.registeredSlots order) := by
  simp only [step, stop, hs, Bool.false_eq_true, if_false]

theorem sameLife_stop (hs : c.stopped = false) (order : List Nat) : SameLife { c with
    stopped := true
    closing := (c.step (.stop order)).closing
    awaited := (c.step (.stop order)).awaited } (c.step (.stop order)) := by
  rw [step_stop hs]
  have hlife := { c with hub := c.hub.unregisterAll, stopped := true }.sameLife_closeClients
    (c.registeredSlots order)
  exact ⟨hlife.config, hlife.allocated, hlife.started, hlife.stopped, rfl, rfl⟩

theorem newClient_of_not_stopped (hs : c.stopped = false) : ∃ hub,
    c.newClient = .ok ({ c with hub, allocated := c.allocated + 1 }, c.nextId) := by
  rw [newClient, hs, if_neg Bool.false_ne_true]
  exact ⟨_, rfl⟩

/-- What a step does to the life of a connection. -/
inductive LifeStep (a : Action) : Prop where
  | same (hnew : a = .newClient → c.stopped = true) (hstop : ∀ order, a = .stop order → c.stopped = true)
      (hlife : SameLife c (c.step a))
  | made (ha : a = .newClient) (hrunning : c.stopped = false)
      (hlife : SameLife { c with allocated := c.allocated + 1 } (c.step a))
  | begun (ha : a = .start) (hrunning : c.stopped = false)
      (hlife : SameLife { c with started := true } (c.step a))
  | ended {order : List Nat} (ha : a = .stop order) (hrunning : c.stopped = false)
      (hlife : SameLife { c with
        stopped := true
        closing := (c.step a).closing
        awaited := (c.step a).awaited } (c.step a))
  | continued (ha : a = .continueStop)
      (hlife : SameLife { c with
        closing := (c.step a).closing
        awaited := (c.step a).awaited } (c.step a))

theorem life_step (a : Action) : c.LifeStep a := by
  cases a with
  | newClient =>
    cases hs : c.stopped with
    | true =>
      refine .same (fun _ => hs) (by rintro _ ⟨⟩) ?_
      rw [c.newClient_of_stopped hs]
      exact .refl c
    | false =>
      obtain ⟨hub, hnew⟩ := c.newClient_of_not_stopped hs
      refine .made rfl hs ?_
      simp only [step, hnew]
      exact ⟨rfl, rfl, rfl, rfl, rfl, rfl⟩
  | start =>
    by_cases hs : (c.stopped || c.started) = true
    · refine .same (by rintro ⟨⟩) (by rintro _ ⟨⟩) ?_
      simp only [step, start, if_pos hs]
      exact .refl c
    · have hrunning : c.stopped = false ∧ c.started = false := by simpa using hs
      refine .begun rfl hrunning.1 ?_
      simp only [step, start, if_neg hs]
      exact ⟨rfl, rfl, rfl, rfl, rfl, rfl⟩
  | stop order =>
    cases hs : c.stopped with
    | true =>
      refine .same (by rintro ⟨⟩) (fun _ _ => hs) ?_
      simp only [step, stop, hs, if_true]
      exact .refl c
    | false => exact .ended rfl hs (c.sameLife_stop hs order)
  | continueStop => exact .continued rfl c.sameLife_continueStop
  | startClient n =>
    refine .same (by rintro ⟨⟩) (by rintro _ ⟨⟩) ?_
    simp only [step]
    split
    · exact ⟨rfl, rfl, rfl, rfl, rfl, rfl⟩
    · exact .refl c
  | answerClient n source =>
    refine .same (by rintro ⟨⟩) (by rintro _ ⟨⟩) ?_
    simp only [step, answerClient]
    split
    · exact .refl c
    · exact c.sameLife_onHub _
  | tickBlocks =>
    refine .same (by rintro ⟨⟩) (by rintro _ ⟨⟩) ?_
    simp only [step]
    split
    · exact c.sameLife_onHub _
    · exact .refl c
  | tickTransactions =>
    refine .same (by rintro ⟨⟩) (by rintro _ ⟨⟩) ?_
    simp only [step]
    split
    · exact c.sameLife_onHub _
    · exact .refl c
  | answerBlockPoller source =>
    refine .same (by rintro ⟨⟩) (by rintro _ ⟨⟩) ?_
    simp only [step, answerBlockPoller]
    split
    · exact .refl c
    · exact c.sameLife_onHub _
    · exact c.sameLife_onHub _
  | answerTxPoller source =>
    refine .same (by rintro ⟨⟩) (by rintro _ ⟨⟩) ?_
    simp only [step, answerTxPoller]
    split
    · exact .refl c
    · exact c.sameLife_onHub _
    · exact c.sameLife_onHub _
  | _ => exact .same (by rintro ⟨⟩) (by rintro _ ⟨⟩) ⟨rfl, rfl, rfl, rfl, rfl, rfl⟩

/-- What every step keeps, a run keeps. -/
theorem keep_run {P : Connection → Prop} (hP : ∀ {d : Connection} a, P d → P (d.step a))
    (actions : List Action) {c : Connection} (hc : P c) : P (c.run actions) := by
  induction actions generalizing c with
  | nil => exact hc
  | cons a rest ih => exact ih (hP a hc)

/-- What is fed to the pollers leaves the life of the connection alone. -/
theorem sameLife_of_feed {a : Action} (ha : a.isFeed = true) : SameLife c (c.step a) := by
  cases c.life_step a with
  | same _ _ hlife => exact hlife
  | made h => rw [h] at ha; cases ha
  | begun h => rw [h] at ha; cases ha
  | ended h => rw [h] at ha; cases ha
  | continued h => rw [h] at ha; cases ha

theorem config_step (a : Action) : (c.step a).config = c.config := by
  cases c.life_step a with
  | same _ _ hlife => exact hlife.config
  | made _ _ hlife => exact hlife.config
  | begun _ _ hlife => exact hlife.config
  | ended _ _ hlife => exact hlife.config
  | continued _ hlife => exact hlife.config

theorem stopped_step (a : Action) (hs : c.stopped = true) : (c.step a).stopped = true := by
  cases c.life_step a with
  | same _ _ hlife => exact hlife.stopped.trans hs
  | made _ _ hlife => exact hlife.stopped.trans hs
  | begun _ _ hlife => exact hlife.stopped.trans hs
  | ended _ _ hlife => exact hlife.stopped
  | continued _ hlife => exact hlife.stopped.trans hs

/-- Clients are only made by `newClient`, and none is ever dropped. -/
theorem length_of_not_made {a : Action} (ha : a = .newClient → c.stopped = true) :
    (c.step a).hub.clients.length = c.hub.clients.length := by
  apply Nat.le_antisymm
  · have hfree : c.hub.clients[c.hub.clients.length]? = none :=
      List.getElem?_eq_none (Nat.le_refl _)
    by_cases hnew : a = .newClient
    · refine Nat.le_of_eq ?_
      rw [hnew, c.newClient_of_stopped (ha hnew)]
    · exact List.getElem?_eq_none_iff.1 (c.step_free _ (fun h => absurd h hnew) hfree)
  · apply Nat.le_of_not_lt
    intro hlt
    obtain ⟨y, hy, _⟩ := c.step_client _ a (List.getElem?_eq_getElem hlt)
    exact Nat.lt_irrefl _ (List.getElem?_eq_some_iff.1 hy).1

theorem length_newClient (hs : c.stopped = false) :
    (c.step .newClient).hub.clients.length = c.hub.clients.length + 1 := by
  apply Nat.le_antisymm
  · have hfree : c.hub.clients[c.hub.clients.length + 1]? = none :=
      List.getElem?_eq_none (Nat.le_succ _)
    exact List.getElem?_eq_none_iff.1
      (c.step_free _ (fun _ => Nat.succ_ne_self _) hfree)
  · obtain ⟨hlt, _⟩ := List.getElem?_eq_some_iff.1 (c.newClient_client hs)
    exact hlt

theorem length_le_step (a : Action) :
    c.hub.clients.length ≤ (c.step a).hub.clients.length := by
  by_cases hmade : a = .newClient ∧ c.stopped = false
  · rw [hmade.1, c.length_newClient hmade.2]
    exact Nat.le_succ _
  · have hnot : a = .newClient → c.stopped = true := fun ha => by simpa [ha] using hmade
    exact Nat.le_of_eq (c.length_of_not_made hnot).symm

theorem length_le_run (actions : List Action) :
    c.hub.clients.length ≤ (c.run actions).hub.clients.length :=
  keep_run (P := fun d => c.hub.clients.length ≤ d.hub.clients.length)
    (fun {d} a hd => Nat.le_trans hd (d.length_le_step a)) actions (Nat.le_refl _)

def idAt (slot : Nat) : ClientId := ⟨(slot + 1).toUInt64⟩

theorem idAt_inj {m n : Nat} (hm : m < 2 ^ 64) (hn : n < 2 ^ 64) (h : idAt m = idAt n) : m = n := by
  have hmod : (m + 1) % 2 ^ 64 = (n + 1) % 2 ^ 64 :=
    congrArg (fun id => id.value.toNat) h
  omega

/-- Clients are numbered from one in the order in which they are made. -/
structure Numbered (c : Connection) : Prop where
  count : c.allocated = c.hub.clients.length
  ids : ∀ (slot : Nat) (x : Client), c.hub.clients[slot]? = some x → x.id = idAt slot

namespace Numbered

variable {c}

theorem count_step (h : c.Numbered) (a : Action) :
    (c.step a).allocated = (c.step a).hub.clients.length := by
  have hsame (hnot : a = .newClient → c.stopped = true)
      (hlife : (c.step a).allocated = c.allocated) :
      (c.step a).allocated = (c.step a).hub.clients.length := by
    rw [hlife, c.length_of_not_made hnot]
    exact h.count
  cases c.life_step a with
  | same hnot _ hlife => exact hsame hnot hlife.allocated
  | made ha hs hlife =>
    subst ha
    rw [hlife.allocated, c.length_newClient hs]
    exact congrArg Nat.succ h.count
  | begun ha _ hlife => exact hsame (by rw [ha]; exact nofun) hlife.allocated
  | ended ha _ hlife => exact hsame (by rw [ha]; exact nofun) hlife.allocated
  | continued ha hlife => exact hsame (by rw [ha]; exact nofun) hlife.allocated

theorem step (h : c.Numbered) (a : Action) : (c.step a).Numbered := by
  refine ⟨h.count_step a, fun slot y hy => ?_⟩
  cases hx : c.hub.clients[slot]? with
  | none =>
    obtain ⟨_, _, hslot, rfl⟩ := newClient_of_free slot c hx hy
    rw [hslot, ← h.count]
    rfl
  | some x =>
    have hid : y.id = x.id := congrArg Prod.fst (settings_step hx hy)
    exact hid.trans (h.ids slot x hx)

theorem run (h : c.Numbered) (actions : List Action) : (c.run actions).Numbered :=
  keep_run (fun a hd => hd.step a) actions h

/-- A stop that begins leaves the ids alone. -/
theorem unregisterAll (h : c.Numbered) :
    Numbered { c with hub := c.hub.unregisterAll, stopped := true } := by
  refine ⟨h.count.trans (List.length_map _).symm, fun slot y hy => ?_⟩
  rw [Hub.getElem?_unregisterAll] at hy
  obtain ⟨x, hx, rfl⟩ := Option.map_eq_some_iff.1 hy
  exact h.ids slot x hx

theorem opened (config : BackendConfig) (best : Stamp) : (opened config best).Numbered :=
  ⟨rfl, fun _ _ hnone => nomatch hnone⟩

end Numbered

theorem config_run (actions : List Action) : (c.run actions).config = c.config :=
  keep_run (P := fun d => d.config = c.config) (fun {d} a hd => (d.config_step a).trans hd) actions
    rfl

end ChainFeed.Connection
