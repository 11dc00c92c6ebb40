import ChainFeed.Proofs.Run.FanOutOrder
import ChainFeed.Proofs.Run.View

/-!
# Clients do not influence each other

What is done to other clients can be dropped from a run, whatever it is: the client that is looked
at ends up the same, and so do the watermark and the tracked transactions.
-/

namespace ChainFeed

open Connection

namespace Action

/-- Whether an action is fed to the pollers, starts them, or is done to the client at `slot`. -/
def concerns (slot : Nat) : Action → Bool
  | .removeClient name => name = idAt slot
  | .stopClient n => n = slot
  | .start => true
  | a => a.isFeed || a.subject = some slot

/-- What is left of the actions without those that are done to other clients than the one at `slot`,
when `made` clients have been made before. -/
def script (slot : Nat) : Nat → List Action → List Action
  | _, [] => []
  | made, .newClient :: rest =>
    (if made = slot then [.newClient] else []) ++ script slot (made + 1) rest
  | made, a :: rest => (if a.concerns slot then [a] else []) ++ script slot made rest

theorem script_cons (slot made : Nat) {a : Action} (ha : a ≠ .newClient) (rest : List Action) :
    script slot made (a :: rest) =
      (if a.concerns slot then [a] else []) ++ script slot made rest := by
  cases a with
  | newClient => exact absurd rfl ha
  | _ => rfl

/-- The signal of an action of the script. -/
def signal (slot : Nat) : Action → Signal
  | .newClient => .made (idAt slot)
  | .removeClient _ => .withdrawn
  | .stopClient _ => .ended
  | .start => .started
  | a => if a.isFeed then .fed a else .operated a

end Action

namespace Connection

/-- Whether a stop has not begun. -/
structure Running (c : Connection) : Prop where
  stopped : c.stopped = false
  awaited : c.awaited = none

theorem Running.step {c : Connection} (h : c.Running) {a : Action}
    (ha : ∀ order, a ≠ .stop order) : (c.step a).Running := by
  cases c.life_step a with
  | same _ _ hlife => exact ⟨hlife.stopped.trans h.stopped, hlife.awaited.trans h.awaited⟩
  | made _ _ hlife => exact ⟨hlife.stopped.trans h.stopped, hlife.awaited.trans h.awaited⟩
  | begun _ _ hlife => exact ⟨hlife.stopped.trans h.stopped, hlife.awaited.trans h.awaited⟩
  | ended hstop => exact absurd hstop (ha _)
  | continued hcontinue =>
    rw [hcontinue, Winding.continueStop_of_not_waiting h.awaited]
    exact h

section
variable (slot : Nat) {c : Connection}

/-- While nothing stops, an action that is done to another client sends no signal. -/
theorem signalsAt_eq_signal (hrunning : c.Running) (hfew : c.hub.clients.length ≤ 2 ^ 64)
    {a : Action} (hnew : a ≠ .newClient) (hstop : ∀ order, a ≠ .stop order) :
    c.signalsAt slot a = if a.concerns slot then [a.signal slot] else [] := by
  cases a with
  | newClient => exact absurd rfl hnew
  | stop order => exact absurd rfl (hstop order)
  | continueStop => simp only [signalsAt, hrunning.awaited]; rfl
  | stopClient n =>
    have hdistinct (hn : n ≠ slot) :
        ¬ (max n slot < c.hub.clients.length ∧ idAt n = idAt slot) := by
      rintro ⟨hboth, hid⟩
      exact hn (idAt_inj (by omega) (by omega) hid)
    by_cases hn : n = slot
    · simp [signalsAt, Action.concerns, Action.signal, hn]
    · simp only [signalsAt, if_neg hn, if_neg (hdistinct hn)]
      simp [Action.concerns, hn]
  | removeClient name => simp [signalsAt, Action.concerns, Action.signal]
  | start => rfl
  | _ => simp [signalsAt, Action.concerns, Action.signal, Action.isFeed, Action.subject]

theorem signalsAt_newClient (hrunning : c.Running) (hnumbered : c.Numbered)
    (hfew : c.hub.clients.length < 2 ^ 64) : c.signalsAt slot .newClient =
      if c.hub.clients.length = slot then [.made (idAt slot)] else [] := by
  have hdistinct : ¬ (slot < c.hub.clients.length ∧ c.nextId = idAt slot) := by
    rintro ⟨hslot, hid⟩
    have hnext : c.nextId = idAt c.hub.clients.length := by
      rw [← hnumbered.count]
      rfl
    have hlength := idAt_inj hfew (Nat.lt_trans hslot hfew) (hnext.symm.trans hid)
    omega
  simp only [signalsAt, hrunning.stopped, Bool.false_eq_true, if_false, if_neg hdistinct]
  exact if_congr eq_comm rfl rfl

/-- While nothing stops, the signals to a client are those of its script. -/
theorem signals_eq_script (hrunning : c.Running) (hnumbered : c.Numbered) {actions : List Action}
    (hstop : ∀ order, .stop order ∉ actions) (hfew : (c.run actions).hub.clients.length ≤ 2 ^ 64) :
    c.trace (signalsAt slot) actions =
      (Action.script slot c.hub.clients.length actions).map (Action.signal slot) := by
  induction actions generalizing c with
  | nil => rfl
  | cons a rest ih =>
    have hnot : ∀ order, a ≠ .stop order := fun order ha => hstop order (ha ▸ List.mem_cons_self)
    have hrest : ∀ order, .stop order ∉ rest := fun order ha =>
      hstop order (List.mem_cons_of_mem a ha)
    have hnext := ih (hrunning.step hnot) (hnumbered.step a) hrest hfew
    have hlater : (c.step a).hub.clients.length ≤ 2 ^ 64 :=
      Nat.le_trans (length_le_run _ rest) hfew
    rw [trace_cons, hnext]
    -- A new client is the one of the script only if its turn has come, so it is told apart.
    by_cases hnew : a = .newClient
    · subst hnew
      have hlength := c.length_newClient hrunning.stopped
      rw [signalsAt_newClient slot hrunning hnumbered (by omega), hlength, Action.script,
        List.map_append]
      split <;> rfl
    · have hlength := c.length_of_not_made fun ha => absurd ha hnew
      rw [signalsAt_eq_signal slot hrunning (by omega) hnew hnot, hlength,
        Action.script_cons slot _ hnew, List.map_append]
      split <;> rfl

end

/-- The client at `slot` is the same in both connections, and so are the watermark and the tracked
transactions. -/
structure SameAt (slot : Nat) (c d : Connection) : Prop where
  client : c.hub.clients[slot]? = d.hub.clients[slot]?
  watermark : c.hub.watermark = d.hub.watermark
  tracker : c.hub.tracker = d.hub.tracker

theorem sameAt_of_signals {slot : Nat} {c : Connection} (hnumbered : c.Numbered)
    (hwinding : c.Winding) {actions others : List Action}
    (hsame : c.trace (signalsAt slot) actions = c.trace (signalsAt slot) others) :
    SameAt slot (c.run actions) (c.run others) := by
  have hview : (c.run actions).view slot = (c.run others).view slot := by
    rw [c.view_run slot hnumbered hwinding, hsame, c.view_run slot hnumbered hwinding]
  exact ⟨congrArg View.client hview, congrArg (fun v => v.hub.watermark) hview,
    congrArg (fun v => v.hub.tracker) hview⟩

/-- A client is the same after two runs, and so are the watermark and the tracked transactions, when
the runs differ only in what is done to other clients. A stop of the connection is nothing that is
done to another client: it waits for one client after the other, so when it comes to a client
depends on the others. For runs with a stop the second clause is the statement: runs that send a
client the same signals, its stop at the same point among them, leave it the same. The order in
which a fan-out goes through the registered clients makes no difference. -/
theorem clients_do_not_influence_each_other (config : BackendConfig) (best : Stamp) (slot : Nat)
    (actions others : List Action) :
    let c := opened config best
    ((∀ order, .stop order ∉ actions) → (∀ order, .stop order ∉ others) →
      (c.run actions).hub.clients.length ≤ 2 ^ 64 → (c.run others).hub.clients.length ≤ 2 ^ 64 →
      Action.script slot 0 actions = Action.script slot 0 others →
        SameAt slot (c.run actions) (c.run others)) ∧
    (c.trace (signalsAt slot) actions = c.trace (signalsAt slot) others →
      SameAt slot (c.run actions) (c.run others)) ∧
    ∀ (h : Hub) (order : List Nat) (wants : Client → Bool) (e : Event), h.Snapshot order →
      h.fanOutIn wants e order = h.fanOut wants e := by
  intro c
  have hnumbered : c.Numbered := .opened config best
  have hwinding : c.Winding := .opened config best
  have hrunning : c.Running := ⟨rfl, rfl⟩
  refine ⟨fun hactions hothers hfew hfew' hscript => ?_, fun hsame => ?_,
    fun _ _ wants e hsnapshot => Hub.fanOutIn_eq wants e hsnapshot⟩
  · have hsame : c.trace (signalsAt slot) actions = c.trace (signalsAt slot) others := by
      rw [signals_eq_script slot hrunning hnumbered hactions hfew,
        signals_eq_script slot hrunning hnumbered hothers hfew']
      exact congrArg _ hscript
    exact sameAt_of_signals hnumbered hwinding hsame
  · exact sameAt_of_signals hnumbered hwinding hsame

/-- The second client gets two blocks and handles one of them. -/
def calmRun : List Action :=
  [.newClient, .newClient, .startClient 1, .push (.blockConnected ⟨6, .blank⟩), .handle 1,
    .push (.blockConnected ⟨7, .blank⟩)]

/-- The same, next to one client that handles nothing until it is taken out, and to another that
comes and goes. -/
def busyRun : List Action :=
  [.newClient, .startClient 0, .notifyAllMempool 0, .newClient, .newClient, .startClient 2,
    .startClient 1, .push (.blockConnected ⟨6, .blank⟩), .stopClient 2, .handle 1,
    .removeClient (idAt 0), .catchUp 0, .push (.blockConnected ⟨7, .blank⟩), .watchScript 0 [0x51]]

/-- What the second client hears of either run, when it is followed by a stop. -/
def heardBySecond : List Signal :=
  [.made (idAt 1), .operated (.startClient 1), .fed (.push (.blockConnected ⟨6, .blank⟩)),
    .operated (.handle 1), .fed (.push (.blockConnected ⟨7, .blank⟩)), .stopped, .ended]

theorem second_client_is_not_influenced :
    (∃ x : Client, (narrowOpened.run calmRun).hub.clients[1]? = some x ∧
      (narrowOpened.run busyRun).hub.clients[1]? = some x ∧
      x.inbox = [.blockConnected ⟨7, .blank⟩]) ∧
    (narrowOpened.run calmRun).hub.clients[0]? ≠ (narrowOpened.run busyRun).hub.clients[0]? ∧
    SameAt 1 (narrowOpened.run (calmRun ++ [.stop []])) (narrowOpened.run (busyRun ++ [.stop []])) ∧
    (narrowOpened.run calmRun).hub.fanOutIn (fun _ => true) (.blockConnected ⟨8, .blank⟩) [1, 0] =
      (narrowOpened.run calmRun).hub.fanOut (fun _ => true) (.blockConnected ⟨8, .blank⟩) := by
  obtain ⟨hsame, _, horder⟩ := clients_do_not_influence_each_other
    { BackendConfig.standard with clientBuffer := 1 } ⟨5, .zero⟩ 1 calmRun busyRun
  obtain ⟨_, hsignals, _⟩ := clients_do_not_influence_each_other
    { BackendConfig.standard with clientBuffer := 1 } ⟨5, .zero⟩ 1 (calmRun ++ [.stop []])
    (busyRun ++ [.stop []])
  have hcalm : narrowOpened.trace (signalsAt 1) (calmRun ++ [.stop []]) = heardBySecond := rfl
  have hbusy : narrowOpened.trace (signalsAt 1) (busyRun ++ [.stop []]) = heardBySecond := rfl
  have hsnapshot : (narrowOpened.run calmRun).hub.Snapshot [1, 0] := by
    refine ⟨by decide, fun slot => ?_⟩
    match slot with
    | 0 => decide
    | 1 => decide
    | n + 2 => exact iff_of_false (by simp) Bool.false_ne_true
  refine ⟨?_, ?_, ?_, ?_⟩
  · have hkept := hsame (by simp [calmRun]) (by simp [busyRun]) (by decide) (by decide) rfl
    have hend : ∃ x : Client, (narrowOpened.run calmRun).hub.clients[1]? = some x ∧
        x.inbox = [.blockConnected ⟨7, .blank⟩] := ⟨_, rfl, rfl⟩
    obtain ⟨x, hx, hin⟩ := hend
    exact ⟨x, hx, hkept.client.symm.trans hx, hin⟩
  · intro hfirst
    have hstarted := congrArg (fun o => o.any Client.isStarted) hfirst
    revert hstarted
    decide
  · exact hsignals (hcalm.trans hbusy.symm)
  · exact horder (narrowOpened.run calmRun).hub [1, 0] (fun _ => true)
      (.blockConnected ⟨8, .blank⟩) hsnapshot

end Connection

end ChainFeed
