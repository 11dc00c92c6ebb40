import ChainFeed.Proofs.Run.Core

/-!
# What a client sees of its connection

A client sees its own record and the core of the hub. A step sends it signals: what is fed to the
core, what is done to the client or to its id, and how far the connection's stop has come. What a
client sees after a run depends on the signals alone, and so not on what is done to the others.
-/

namespace ChainFeed

open Client

/-- What the client at one place sees. There is none at the place at first. -/
structure View where
  config : BackendConfig
  started : Bool
  stopped : Bool
  hub : Hub
  client : Option Client

inductive Signal where
  /-- A poller ticks or gets an answer, or an event is pushed. -/
  | fed (action : Action)
  /-- The subscriber, the handler or the fetch of the client acts. -/
  | operated (action : Action)
  | made (id : ClientId)
  /-- The client's id is taken out of the fan-out. -/
  | withdrawn
  /-- The client is stopped, by its subscriber or by the connection. -/
  | ended
  /-- The connection is told to start its pollers. -/
  | started
  /-- The connection begins to stop. -/
  | stopped
  /-- The connection shuts its pollers down. -/
  | closed

namespace View

/-- A connection without clients that polls as the view says. -/
def connection (v : View) : Connection := ⟨v.config, v.hub, 0, v.started, v.stopped, [], none⟩

def onClient (v : View) (f : Client → Client) : View := { v with client := v.client.map f }

def receive (v : View) : Signal → View
  | .fed a =>
    { v with
      hub := (v.connection.step a).hub.core
      client := v.client.map fun x => x.offerAll (v.connection.dispatched a) }
  | .operated a => v.onClient (a.operate v.hub.watermark)
  | .made name =>
    { v with
      client := some { Client.new name v.config.network v.config.autoCatchUp
        v.config.clientBuffer.toNat v.hub.watermark with registered := true } }
  | .withdrawn => v.onClient fun x => { x with registered := false }
  | .ended => v.onClient Client.stop
  | .started => if v.stopped then v else { v with started := true }
  | .stopped => { v.onClient fun x => { x with registered := false } with stopped := true }
  | .closed => { v with hub := { v.hub with shutdown := true } }

def receiveAll (v : View) (signals : List Signal) : View := signals.foldl receive v

theorem receiveAll_nil (v : View) : v.receiveAll [] = v := rfl

theorem receiveAll_singleton (v : View) (s : Signal) : v.receiveAll [s] = v.receive s := rfl

theorem receiveAll_cons (v : View) (s : Signal) (rest : List Signal) :
    v.receiveAll (s :: rest) = (v.receive s).receiveAll rest := rfl

theorem onClient_id (v : View) {f : Client → Client} (hf : ∀ x, v.client = some x → f x = x) :
    v.onClient f = v := by
  cases hx : v.client with
  | none => rw [onClient, hx, Option.map_none, ← hx]
  | some x => rw [onClient, hx, Option.map_some, hf x hx, ← hx]

theorem receiveAll_append (v : View) (l r : List Signal) :
    v.receiveAll (l ++ r) = (v.receiveAll l).receiveAll r := List.foldl_append

end View

namespace Connection

open Hub

def view (slot : Nat) (c : Connection) : View where
  config := c.config
  started := c.started
  stopped := c.stopped
  hub := c.hub.core
  client := c.hub.clients[slot]?

/-- What a client hears of a stop that goes through `slots` until it has to wait. -/
def progressAt (slot : Nat) (c : Connection) : List Nat → List Signal
  | [] => [.closed]
  | n :: rest =>
    let hub := c.hub.stopClient n
    (if n = slot then [.ended] else []) ++
      if c.hub.clients[n]?.any Client.isStarted && hub.clients[n]?.any Client.isLeaving then []
      else progressAt slot { c with hub } rest

/-- The signals that a step sends to the client at `slot`. Ids come round again, and whoever is
registered under the id of the client, or stopped, takes it out of the fan-out. -/
def signalsAt (slot : Nat) (c : Connection) : Action → List Signal
  | .newClient =>
    if c.stopped then []
    else if slot = c.hub.clients.length then [.made (idAt slot)]
    else if slot < c.hub.clients.length ∧ c.nextId = idAt slot then [.withdrawn]
    else []
  | .removeClient name => if name = idAt slot then [.withdrawn] else []
  | .stopClient n =>
    if n = slot then [.ended]
    else if max n slot < c.hub.clients.length ∧ idAt n = idAt slot then [.withdrawn]
    else []
  | .start => [.started]
  | .stop order =>
    if c.stopped then []
    else .stopped :: { c with hub := c.hub.unregisterAll, stopped := true }.progressAt slot
      (c.registeredSlots order)
  | .continueStop =>
    match c.awaited with
    | none => []
    | some n =>
      if c.hub.clients[n]?.any Client.isLeaving then [] else c.progressAt slot c.closing
  | a => if a.isFeed then [.fed a] else if a.subject = some slot then [.operated a] else []

section
variable (slot : Nat) (c : Connection)

theorem signalsAt_of_feed {a : Action} (ha : a.isFeed = true) : c.signalsAt slot a = [.fed a] := by
  cases a with
  | tickBlocks => rfl
  | answerBlockPoller source => rfl
  | tickTransactions => rfl
  | answerTxPoller source => rfl
  | push e => rfl
  | _ => cases ha

theorem signalsAt_of_subject {a : Action} {n : Nat} (ha : a.subject = some n) :
    c.signalsAt slot a = if n = slot then [.operated a] else [] := by
  have hiff : (some n = some slot) = (n = slot) := by simp
  cases a <;> simp only [Action.subject, reduceCtorEq] at ha <;>
    simp only [signalsAt, Action.isFeed, Action.subject, ha, hiff, Bool.false_eq_true, if_false]

theorem view_of_feed {a : Action} (ha : a.isFeed = true) :
    (c.step a).view slot = (c.view slot).receiveAll (c.signalsAt slot a) := by
  -- The view polls as the connection does, without its clients.
  have halike : PollsAlike c (c.view slot).connection := ⟨rfl, rfl, c.hub.sameCore_core⟩
  have hcore : (c.step a).hub.core = ((c.view slot).connection.step a).hub.core :=
    (halike.step ha).core_eq
  have hclient : (c.step a).hub.clients[slot]? = c.hub.clients[slot]?.map fun x =>
      x.offerAll ((c.view slot).connection.dispatched a) := by
    rw [c.clients_of_feed ha, List.getElem?_map, halike.dispatched a]
  have hlife := c.sameLife_of_feed ha
  rw [signalsAt_of_feed slot c ha, View.receiveAll_singleton]
  simp only [view, hlife.config, hlife.started, hlife.stopped, hcore, hclient]
  rfl

/-- An action on the clients changes nothing of a view but the client. -/
theorem view_of_quiet {a : Action} (ha : a.isFeed = false) (hstart : a ≠ .start)
    (hstop : ∀ order, a ≠ .stop order) (hcontinue : a ≠ .continueStop) :
    (c.step a).view slot = { c.view slot with client := (c.step a).hub.clients[slot]? } := by
  have hcore : (c.step a).hub.core = c.hub.core :=
    ((c.frame_step ha).sameCore (c.shutdown_of_not_stop hstop hcontinue)).core_eq
  cases c.life_step a with
  | same _ _ hlife => simp only [view, hcore, hlife.config, hlife.started, hlife.stopped]
  | made _ _ hlife => simp only [view, hcore, hlife.config, hlife.started, hlife.stopped]
  | begun h => exact absurd h hstart
  | ended h => exact absurd h (hstop _)
  | continued h => exact absurd h hcontinue

/-- The client is withdrawn if the id is its own, and stays as it is otherwise. -/
theorem view_withdraw {name : ClientId} {p : Prop} [Decidable p]
    (hp : ∀ x, c.hub.clients[slot]? = some x → (x.id = name ↔ p)) :
    { c.view slot with client := c.hub.clients[slot]?.map (Client.withdraw name) } =
      (c.view slot).receiveAll (if p then [.withdrawn] else []) := by
  cases hx : c.hub.clients[slot]? with
  | none => split <;> simp [View.receiveAll, View.receive, View.onClient, view, hx]
  | some x =>
    by_cases hname : x.id = name
    · rw [if_pos ((hp x hx).1 hname), Option.map_some, withdraw_of_eq hname,
        View.receiveAll_singleton]
      simp only [View.receive, View.onClient, view, hx, Option.map_some]
    · rw [if_neg fun h => hname ((hp x hx).2 h), Option.map_some, withdraw_of_ne hname,
        View.receiveAll_nil, ← hx]
      rfl

theorem view_of_subject {a : Action} {n : Nat} (ha : a.subject = some n) :
    (c.step a).view slot = (c.view slot).receiveAll (c.signalsAt slot a) := by
  have hquiet : a.isFeed = false ∧ a ≠ .start ∧ (∀ order, a ≠ .stop order) ∧ a ≠ .continueStop := by
    cases a <;> simp [Action.subject] at ha <;> simp [Action.isFeed]
  obtain ⟨hfeed, hstart, hstop, hcontinue⟩ := hquiet
  rw [c.view_of_quiet slot hfeed hstart hstop hcontinue, signalsAt_of_subject slot c ha,
    clients_of_subject ha, modifyClient, List.getElem?_modify]
  by_cases hn : n = slot
  · rw [if_pos hn, View.receiveAll_singleton]
    simp only [if_pos hn]
    rfl
  · rw [if_neg hn, View.receiveAll_nil]
    simp only [if_neg hn]
    cases hx : c.hub.clients[slot]? with
    | none => simp [view, hx]
    | some x => simp [view, hx]

theorem view_newClient (hnumbered : c.Numbered) :
    (c.step .newClient).view slot = (c.view slot).receiveAll (c.signalsAt slot .newClient) := by
  cases hs : c.stopped with
  | true =>
    rw [c.newClient_of_stopped hs, signalsAt, hs, if_pos rfl, View.receiveAll_nil]
  | false =>
    rw [c.view_of_quiet slot (a := .newClient) rfl nofun nofun nofun, signalsAt, hs,
      if_neg Bool.false_ne_true]
    by_cases hslot : slot = c.hub.clients.length
    · rw [if_pos hslot, hslot, c.newClient_client hs, hnumbered.count, View.receiveAll_singleton]
      rfl
    · rw [if_neg hslot, c.getElem?_newClient slot hs hslot]
      refine c.view_withdraw slot fun x hx => ?_
      have hthere : slot < c.hub.clients.length := (List.getElem?_eq_some_iff.1 hx).1
      rw [hnumbered.ids slot x hx, and_iff_right hthere, eq_comm]

theorem view_removeClient (hnumbered : c.Numbered) (name : ClientId) :
    (c.step (.removeClient name)).view slot =
      (c.view slot).receiveAll (c.signalsAt slot (.removeClient name)) := by
  rw [c.view_of_quiet slot (a := .removeClient name) rfl nofun nofun nofun]
  have hclients : (c.step (.removeClient name)).hub.clients =
      c.hub.clients.map (Client.withdraw name) := rfl
  rw [hclients, List.getElem?_map]
  refine c.view_withdraw slot fun x hx => ?_
  rw [hnumbered.ids slot x hx, eq_comm]

theorem view_stopClient (hnumbered : c.Numbered) (n : Nat) : (c.step (.stopClient n)).view slot =
    (c.view slot).receiveAll (c.signalsAt slot (.stopClient n)) := by
  rw [c.view_of_quiet slot (a := .stopClient n) rfl nofun nofun nofun, signalsAt]
  simp only [step, onHub]
  cases hn : c.hub.clients[n]? with
  | none =>
    have hsame : c.hub.stopClient n = c.hub := by simp only [Hub.stopClient, hn]
    have hfree : ¬ (max n slot < c.hub.clients.length ∧ idAt n = idAt slot) := by
      have hlength := List.getElem?_eq_none_iff.1 hn
      omega
    rw [hsame, if_neg hfree]
    by_cases hslot : n = slot
    · subst hslot
      rw [if_pos rfl, View.receiveAll_singleton]
      simp only [View.receive, View.onClient, view, hn, Option.map_none]
    · rw [if_neg hslot]
      rfl
  | some y =>
    rw [c.hub.getElem?_stopClient slot hn, hnumbered.ids n y hn]
    by_cases hslot : n = slot
    · subst hslot
      rw [if_pos rfl, View.receiveAll_singleton]
      simp only [View.receive, View.onClient, view, hn, Option.map_some, if_true]
      rw [withdraw_of_out (show y.stop.registered = false from rfl)]
    · simp only [if_neg hslot]
      refine c.view_withdraw slot fun x hx => ?_
      have hboth : max n slot < c.hub.clients.length := Nat.max_lt.2
        ⟨(List.getElem?_eq_some_iff.1 hn).1, (List.getElem?_eq_some_iff.1 hx).1⟩
      rw [hnumbered.ids slot x hx, and_iff_right hboth, eq_comm]

theorem view_start :
    (c.step .start).view slot = (c.view slot).receiveAll (c.signalsAt slot .start) := by
  rw [signalsAt, View.receiveAll_singleton]
  simp only [step, start, View.receive]
  cases hs : c.stopped <;> cases hstarted : c.started <;> simp [view, hs, hstarted]

/-- When everyone is out of the fan-out, only the client that is stopped changes. -/
theorem view_stopClient_of_out (hnumbered : c.Numbered) (n : Nat)
    (hout : ∀ x, c.hub.clients[slot]? = some x → x.registered = false) :
    ({ c with hub := c.hub.stopClient n } : Connection).view slot =
      (c.view slot).receiveAll (if n = slot then [.ended] else []) := by
  have hwithdrawn : (c.view slot).receive .withdrawn = c.view slot := by
    refine View.onClient_id _ fun x hx => ?_
    rw [← hout x hx]
  refine (c.view_stopClient slot hnumbered n).trans ?_
  rw [signalsAt]
  split
  · rfl
  · split
    · exact hwithdrawn
    · rfl

/-- What a client sees of a stop that goes through the clients. -/
theorem view_closeClients (hnumbered : c.Numbered) (slots : List Nat)
    (hout : ∀ x, c.hub.clients[slot]? = some x → x.registered = false) :
    (c.closeClients slots).view slot = (c.view slot).receiveAll (c.progressAt slot slots) := by
  induction slots generalizing c with
  | nil => rfl
  | cons n rest ih =>
    have htold := c.view_stopClient_of_out slot hnumbered n hout
    rw [closeClients, progressAt, View.receiveAll_append, ← htold]
    split
    · rfl
    · -- Whoever is told stays out of the fan-out, and the others were out before.
      have hrest : Numbered { c with hub := c.hub.stopClient n } := hnumbered.step (.stopClient n)
      refine ih _ hrest fun y hy => ?_
      have hclient := (congrArg View.client htold).symm.trans hy
      split at hclient
      · obtain ⟨x, _, rfl⟩ := Option.map_eq_some_iff.1 hclient
        rfl
      · exact hout y hclient

theorem view_stop (hnumbered : c.Numbered) (order : List Nat) :
    (c.step (.stop order)).view slot =
      (c.view slot).receiveAll (c.signalsAt slot (.stop order)) := by
  simp only [step, stop, signalsAt]
  split
  · rfl
  · have hbegun : ({ c with hub := c.hub.unregisterAll, stopped := true } : Connection).view slot =
        (c.view slot).receive .stopped := by
      simp only [view, getElem?_unregisterAll]
      rfl
    rw [View.receiveAll_cons, ← hbegun]
    refine view_closeClients slot _ hnumbered.unregisterAll _ fun y hy => ?_
    rw [getElem?_unregisterAll] at hy
    obtain ⟨x, _, rfl⟩ := Option.map_eq_some_iff.1 hy
    rfl

theorem view_continueStop (hnumbered : c.Numbered) (hwinding : c.Winding) :
    (c.step .continueStop).view slot =
      (c.view slot).receiveAll (c.signalsAt slot .continueStop) := by
  simp only [step, continueStop, signalsAt]
  cases hn : c.awaited with
  | none => rfl
  | some n =>
    dsimp only
    split
    · rfl
    · have hstopped : c.stopped = true := hwinding.waiting (by simp [hn])
      exact c.view_closeClients slot hnumbered _ (hwinding.withdrawn hstopped slot)

/-- A step changes what a client sees as its signals say. -/
theorem view_step (hnumbered : c.Numbered) (hwinding : c.Winding) (a : Action) :
    (c.step a).view slot = (c.view slot).receiveAll (c.signalsAt slot a) := by
  cases a with
  | newClient => exact c.view_newClient slot hnumbered
  | removeClient name => exact c.view_removeClient slot hnumbered name
  | start => exact c.view_start slot
  | stop order => exact c.view_stop slot hnumbered order
  | continueStop => exact c.view_continueStop slot hnumbered hwinding
  | stopClient n => exact c.view_stopClient slot hnumbered n
  | tickBlocks => exact c.view_of_feed slot rfl
  | answerBlockPoller source => exact c.view_of_feed slot rfl
  | tickTransactions => exact c.view_of_feed slot rfl
  | answerTxPoller source => exact c.view_of_feed slot rfl
  | push e => exact c.view_of_feed slot rfl
  | _ => exact c.view_of_subject slot rfl

/-- What a client sees after a run depends on the signals that it has got. -/
theorem view_run (hnumbered : c.Numbered) (hwinding : c.Winding) (actions : List Action) :
    (c.run actions).view slot = (c.view slot).receiveAll (c.trace (signalsAt slot) actions) := by
  induction actions generalizing c with
  | nil => rfl
  | cons a rest ih =>
    rw [run_cons, ih (c.step a) (hnumbered.step a) (hwinding.step a),
      c.view_step slot hnumbered hwinding a, trace_cons, View.receiveAll_append]

end

end Connection

end ChainFeed
