import ChainFeed.Data.Outcome
import ChainFeed.Proofs.Run.BlockStep
import ChainFeed.Proofs.Run.Effect
import ChainFeed.Simulation.Session

/-!
# Simulated connections run

What is done to a simulated connection comes to a run of it: its handlers settle, its pollers tick
and its subscribers call by actions, one after the other. Whatever is built from such steps is a run
as well. A trigger that shuts the pollers down by hand is no action, so it is left out.
-/

namespace ChainFeed

namespace Connection

variable (c : Connection)

/-- What an answer makes of a client is what an action makes of it. -/
theorem run_resumeCatchUp (slot : Nat) (answer : Except Error Block) :
    ∃ actions, { c with hub := (c.hub.resumeCatchUp slot answer).1 } = c.run actions := by
  refine ⟨[.answerClient slot { Source.silent with block := fun _ => answer }], ?_⟩
  simp only [run_cons, run_nil, step, answerClient]
  cases hx : c.hub.clients[slot]? with
  | none => simp only [Hub.resumeCatchUp, hx]
  | some x =>
    cases hu : x.catchUp with
    | none => simp [onHub, Hub.resumeCatchUp, hx, hu]
    | some u => simp only [onHub, answerTo, hu]

theorem run_bestArrived (answer : Except Error Stamp) :
    ∃ actions, { c with hub := recordTick (c.hub.bestArrived answer) } = c.run actions := by
  cases hp : c.hub.blockPoller with
  | askingBest =>
    refine ⟨[.answerBlockPoller { Source.silent with best := answer }], ?_⟩
    simp only [run_cons, run_nil, step, answerBlockPoller, hp, onHub]
  | idle => exact ⟨[], by simp only [Hub.bestArrived, hp]; rfl⟩
  | walking next last done => exact ⟨[], by simp only [Hub.bestArrived, hp]; rfl⟩

theorem run_blockArrived (answer : Except Error Block) :
    ∃ actions, { c with hub := recordTick (c.hub.blockArrived answer) } = c.run actions := by
  cases hp : c.hub.blockPoller with
  | walking next last done =>
    refine ⟨[.answerBlockPoller { Source.silent with block := fun _ => answer }], ?_⟩
    simp only [run_cons, run_nil, step, answerBlockPoller, hp, onHub]
  | idle => exact ⟨[], by simp only [Hub.blockArrived, hp]; rfl⟩
  | askingBest => exact ⟨[], by simp only [Hub.blockArrived, hp]; rfl⟩

theorem run_listingArrived (answer : Except Error (List Txid)) :
    ∃ actions, { c with hub := recordTick (c.hub.listingArrived answer) } = c.run actions := by
  cases hp : c.hub.txPoller with
  | askingListing =>
    refine ⟨[.answerTxPoller { Source.silent with mempool := answer }], ?_⟩
    simp only [run_cons, run_nil, step, answerTxPoller, hp, onHub]
  | idle => exact ⟨[], by simp only [Hub.listingArrived, hp]; rfl⟩
  | fetching id rest report => exact ⟨[], by simp only [Hub.listingArrived, hp]; rfl⟩

theorem run_transactionArrived (answer : Except Error Transaction) :
    ∃ actions, { c with hub := recordTick (c.hub.transactionArrived answer) } = c.run actions := by
  cases hp : c.hub.txPoller with
  | fetching id rest report =>
    refine ⟨[.answerTxPoller { Source.silent with transaction := fun _ => answer }], ?_⟩
    simp only [run_cons, run_nil, step, answerTxPoller, hp, onHub]
  | idle => exact ⟨[], by simp only [Hub.transactionArrived, hp]; rfl⟩
  | askingListing => exact ⟨[], by simp only [Hub.transactionArrived, hp]; rfl⟩

theorem run_readAndWatch (slot : Nat) (text : String) :
    ∃ actions, c.onClient slot (Simulation.readAndWatch text) = c.run actions := by
  cases hx : c.hub.clients[slot]? with
  | none =>
    refine ⟨[], congrArg (fun hub => { c with hub }) (Hub.modifyClient_eq_self fun x hx' => ?_)⟩
    cases hx.symm.trans hx'
  | some x =>
    cases hread : Address.ofTextOn x.network text.toList with
    | error fault =>
      refine ⟨[], congrArg (fun hub => { c with hub }) (Hub.modifyClient_eq_self fun y hy => ?_)⟩
      obtain rfl := Option.some.inj (hx.symm.trans hy)
      simp only [Simulation.readAndWatch, Client.watchAddressText, hread]
    | ok a =>
      refine ⟨[.watchScript slot a.script],
        congrArg (fun hub => { c with hub }) (Hub.modifyClient_congr fun y hy => ?_)⟩
      obtain rfl := Option.some.inj (hx.symm.trans hy)
      simp only [Simulation.readAndWatch, Client.watchAddressText, hread]
      rfl

theorem run_watchAddresses (slot : Nat) (addresses : List Address) :
    c.onClient slot (fun x => x.watchAddresses addresses) =
      c.run (addresses.map fun a => .watchScript slot a.script) := by
  induction addresses generalizing c with
  | nil => exact congrArg (fun hub => { c with hub }) (Hub.modifyClient_eq_self fun _ _ => rfl)
  | cons a rest ih =>
    rw [List.map_cons, run_cons, ← ih]
    simp [onClient, onHub, step, Hub.modifyClient, Client.watchAddresses, List.modify_modify_eq,
      Function.comp_def]
    rfl

end Connection

namespace Simulation

/-- The simulation has come from `c` by a run, and no trigger is to shut the pollers down. -/
structure Reached (c : Connection) (s : Simulation) : Prop where
  run : ∃ actions, s.connection = c.run actions
  triggers : ∀ t ∈ s.triggers, t.effect ≠ .shutdown

variable {α β : Type} {c : Connection} {s : Simulation}

theorem Reached.refl (h : ∀ t ∈ s.triggers, t.effect ≠ .shutdown) : Reached s.connection s :=
  ⟨⟨[], rfl⟩, h⟩

theorem Reached.act (h : Reached c s) {d : Connection}
    (hd : ∃ actions, d = s.connection.run actions) : Reached c { s with connection := d } := by
  obtain ⟨actions, hs⟩ := h.run
  obtain ⟨more, rfl⟩ := hd
  exact ⟨⟨actions ++ more, by rw [c.run_append, ← hs]⟩, h.triggers⟩

/-- Whatever the simulation has come from by a run, it still has afterwards. -/
def Keeps (m : Run α) : Prop := ∀ c s, Reached c s → Reached c (m s).2

theorem keeps_pure (a : α) : Keeps (pure a) := fun _ _ hs => hs

theorem Keeps.bind {m : Run α} {f : α → Run β} (hm : Keeps m) (hf : ∀ a, Keeps (f a)) :
    Keeps (m >>= f) :=
  fun c s hs => hf _ c _ (hm c s hs)

theorem Keeps.bind_assoc {γ : Type} {m : Run α} {f : α → Run β} {g : β → Run γ} (hm : Keeps m)
    (hf : ∀ a, Keeps (f a >>= g)) : Keeps ((m >>= f) >>= g) :=
  fun c s hs => hf _ c _ (hm c s hs)

theorem bind_apply (m : Run α) (f : α → Run β) : (m >>= f) s = f (m s).1 (m s).2 := rfl

theorem get_bind_apply (f : Simulation → Run α) : ((get : Run Simulation) >>= f) s = f s s := rfl

theorem keeps_get : Keeps (get : Run Simulation) := fun _ _ hs => hs

theorem keeps_onConnection {f : Connection → Connection × α}
    (hf : ∀ d, ∃ actions, (f d).1 = d.run actions) : Keeps (onConnection f) :=
  fun _ s hs => hs.act (hf s.connection)

theorem keeps_modifyHub {f : Hub → Hub}
    (hf : ∀ d : Connection, ∃ actions, { d with hub := f d.hub } = d.run actions) :
    Keeps (modifyHub f) :=
  keeps_onConnection hf

theorem keeps_modifyClient {slot : Nat} {f : Client → Client} (a : Action)
    (ha : ∀ d : Connection, d.onClient slot f = d.step a) : Keeps (modifyClient slot f) :=
  keeps_modifyHub fun d => ⟨[a], ha d⟩

theorem keeps_askNode (query : StateM Node α) : Keeps (askNode query) :=
  fun _ _ hs => ⟨hs.run, hs.triggers⟩

theorem keeps_askBest : Keeps askBest :=
  keeps_get.bind fun _ => (keeps_askNode _).bind fun _ => keeps_pure _

section
variable {settle : Run Unit}

theorem keeps_carryOut (hsettle : Keeps settle) (p : Point) {e : Effect} (he : e ≠ .shutdown) :
    Keeps (carryOut settle p e) := by
  cases e with
  | fail => exact keeps_pure ()
  | shutdown => exact absurd rfl he
  | stopClient slot =>
    exact hsettle.bind fun _ => keeps_modifyHub fun d => ⟨[.stopClient slot], rfl⟩
  | receive slot =>
    cases p with
    | transaction id => exact keeps_pure ()
    | block height =>
      refine (keeps_askNode _).bind fun answer => ?_
      cases answer with
      | error e => exact keeps_pure ()
      | ok block => exact keeps_modifyClient (.receiveBlock slot ⟨height, block⟩) fun _ => rfl

/-- A trigger that is taken out leaves the others, and is none that shuts the pollers down. -/
theorem takeTrigger_cases (hs : Reached c s) (p : Point) : Reached c (takeTrigger p s).2 ∧
    ∀ e ∈ (takeTrigger p s).1, e ≠ .shutdown := by
  unfold takeTrigger
  cases hfind : s.triggers.find? fun t => t.point = p with
  | none => exact ⟨hs, nofun⟩
  | some t =>
    refine ⟨⟨hs.run, fun u hu => hs.triggers u (List.mem_of_mem_erase hu)⟩, fun e he => ?_⟩
    obtain rfl := Option.some.inj he
    exact hs.triggers t (List.mem_of_find?_eq_some hfind)

theorem keeps_fetch (hsettle : Keeps settle) (p : Point)
    (query : StateM Node (Except Error α)) : Keeps (fetch settle p query) := by
  intro c s hs
  obtain ⟨hleft, heffect⟩ := takeTrigger_cases hs p
  rw [fetch, bind_apply]
  cases he : (takeTrigger p s).1 with
  | none => exact keeps_askNode query c _ hleft
  | some e =>
    have hcarried := (keeps_carryOut hsettle p (heffect e he)).bind fun _ => keeps_askNode query
    cases e with
    | fail => exact hleft
    | _ => exact hcarried c _ hleft

theorem keeps_finishCatchUp (hsettle : Keeps settle) (slot left : Nat) :
    Keeps (finishCatchUp settle slot left) := by
  induction left with
  | zero => exact keeps_pure none
  | succ left ih =>
    refine keeps_get.bind fun s => ?_
    cases s.pendingCatchUp? slot with
    | none => exact keeps_pure none
    | some u =>
      refine (keeps_fetch hsettle _ _).bind fun answer => ?_
      refine (keeps_onConnection fun d => d.run_resumeCatchUp slot answer).bind fun error => ?_
      cases error with
      | some e => exact keeps_pure (some e)
      | none => exact ih

theorem keeps_runHandler (hsettle : Keeps settle) (slot left : Nat) :
    Keeps (runHandler settle slot left) := by
  induction left with
  | zero => exact keeps_pure ()
  | succ left ih =>
    refine keeps_get.bind fun s => ?_
    split
    · refine (keeps_modifyClient (.handle slot) fun _ => rfl).bind fun _ => ?_
      exact keeps_get.bind fun _ => (keeps_finishCatchUp hsettle slot _).bind fun _ => ih
    · exact keeps_pure ()

theorem keeps_runHandlers (hsettle : Keeps settle) (slots : List Nat) :
    Keeps (runHandlers settle slots) := by
  induction slots with
  | nil => exact keeps_pure ()
  | cons slot rest ih =>
    exact keeps_get.bind fun _ => (keeps_runHandler hsettle slot _).bind fun _ => ih

end

theorem keeps_settleWithin (depth : Nat) : Keeps (settleWithin depth) := by
  induction depth with
  | zero => exact keeps_pure ()
  | succ depth ih =>
    refine keeps_get.bind fun _ => (keeps_runHandlers ih _).bind fun _ => ?_
    exact keeps_onConnection fun d => ⟨[.continueStop], rfl⟩

theorem keeps_settle : Keeps settle := keeps_get.bind fun _ => keeps_settleWithin _

theorem keeps_catchUp (slot : Nat) : Keeps (catchUp slot) := by
  refine (keeps_modifyHub fun d => ⟨[.catchUp slot], rfl⟩).bind fun _ => keeps_get.bind fun _ => ?_
  refine (keeps_finishCatchUp keeps_settle slot _).bind fun error => ?_
  cases error with
  | some e => exact keeps_pure _
  | none =>
    refine keeps_get.bind fun s => ?_
    split <;> exact keeps_pure _

/-- A step of a tick is a run together with the counting of a failure that ends the tick. -/
theorem keeps_tick {f : Hub → Hub × Option (Except Error α)}
    {next : Option (Except Error α) → Run (Except Error α)}
    (hf : ∀ d : Connection, ∃ actions,
      { d with hub := Connection.recordTick (f d.hub) } = d.run actions)
    (hend : ∀ result, next (some result) = pure result)
    (hnext : Keeps (next none >>= recordResult)) :
    Keeps ((onHub f >>= next) >>= recordResult) := by
  intro c s hs
  obtain ⟨actions, hact⟩ := hf s.connection
  cases hf' : f s.connection.hub with
  | mk hub result =>
    rw [hf'] at hact
    have harrived : onHub f s = (result, { s with connection := { s.connection with hub } }) := by
      simp only [onHub, onConnection, hf']
    simp only [Bind.bind, StateT.bind, harrived]
    cases result with
    | none => exact hnext c _ (hs.act ⟨actions, hact⟩)
    | some result =>
      rw [hend]
      cases result with
      | ok a => exact hs.act ⟨actions, hact⟩
      | error e => exact hs.act ⟨actions, hact⟩

theorem keeps_finishBlockTick (left : Nat) : Keeps (finishBlockTick left >>= recordResult) := by
  induction left with
  | zero => exact keeps_pure ()
  | succ left ih =>
    refine keeps_get.bind_assoc fun s => ?_
    cases s.hub.blockPoller with
    | walking next last done =>
      refine (keeps_fetch keeps_settle _ _).bind_assoc fun answer => ?_
      exact keeps_tick (fun d => d.run_blockArrived answer) (fun _ => rfl) ih
    | _ => exact keeps_pure ()

theorem keeps_finishTransactionTick (left : Nat) :
    Keeps (finishTransactionTick left >>= recordResult) := by
  induction left with
  | zero => exact keeps_pure ()
  | succ left ih =>
    refine keeps_get.bind_assoc fun s => ?_
    cases s.hub.txPoller with
    | fetching id rest report =>
      refine (keeps_fetch keeps_settle _ _).bind_assoc fun answer => ?_
      exact keeps_tick (fun d => d.run_transactionArrived answer) (fun _ => rfl) ih
    | _ => exact keeps_pure ()

/-- What follows on the beginning of a tick. -/
theorem keeps_blockAnswers : Keeps ((do
    let best ← askBest
    match ← onHub fun h => h.bestArrived best with
    | some result => return result
    | none => finishBlockTick (← get).blocksLeft) >>= recordResult) := by
  refine keeps_askBest.bind_assoc fun best => ?_
  exact keeps_tick (fun d => d.run_bestArrived best) (fun _ => rfl)
    (keeps_get.bind_assoc fun _ => keeps_finishBlockTick _)

theorem keeps_transactionAnswers : Keeps ((do
    let listing ← askNode Node.backend.mempool
    match ← onHub fun h => h.listingArrived listing with
    | some result => return result
    | none => finishTransactionTick (← get).transactionsLeft) >>= recordResult) := by
  refine (keeps_askNode _).bind_assoc fun listing => ?_
  exact keeps_tick (fun d => d.run_listingArrived listing) (fun _ => rfl)
    (keeps_get.bind_assoc fun _ => keeps_finishTransactionTick _)

/-- A tick of a poller that runs is one of the connection's. -/
theorem reached_pollBlocks (hs : Reached c s) (hpolling : s.connection.isPolling = true) :
    Reached c ((pollBlocks >>= recordResult) s).2 := by
  have hbegun : Reached c (modifyHub Hub.beginBlockTick s).2 :=
    hs.act ⟨[.tickBlocks], by simp only [Connection.run_cons, Connection.step, hpolling]; rfl⟩
  exact keeps_blockAnswers c _ hbegun

theorem reached_pollTransactions (hs : Reached c s) (hpolling : s.connection.isPolling = true) :
    Reached c ((pollTransactions >>= recordResult) s).2 := by
  have hbegun : Reached c (modifyHub Hub.beginTxTick s).2 :=
    hs.act ⟨[.tickTransactions], by simp only [Connection.run_cons, Connection.step, hpolling]; rfl⟩
  exact keeps_transactionAnswers c _ hbegun

theorem Reached.setClock (hs : Reached c s) (clock : Clock) : Reached c { s with clock } :=
  ⟨hs.run, hs.triggers⟩

theorem keeps_transactionsDue : Keeps (do
    let s ← get
    if s.connection.isPolling && s.clock.transactionsDue ≤ s.clock.now then
      recordResult (← pollTransactions)
      modify fun s => { s with clock.transactionsDue :=
        s.clock.now + s.connection.config.pollTxMs.toNat }) := by
  intro c s hs
  rw [get_bind_apply]
  by_cases hdue : (s.connection.isPolling && decide (s.clock.transactionsDue ≤ s.clock.now)) = true
  · have hticked := reached_pollTransactions hs (Bool.and_eq_true_iff.1 hdue).1
    rw [if_pos hdue]
    exact hticked.setClock _
  · rw [if_neg hdue]
    exact hs

theorem keeps_tickDue : Keeps tickDue := by
  intro c s hs
  rw [tickDue, get_bind_apply]
  by_cases hdue : (s.connection.isPolling && decide (s.clock.blocksDue ≤ s.clock.now)) = true
  · have hticked := reached_pollBlocks hs (Bool.and_eq_true_iff.1 hdue).1
    rw [if_pos hdue]
    exact keeps_transactionsDue c _ (hticked.setClock _)
  · rw [if_neg hdue]
    exact keeps_transactionsDue c _ hs

theorem keeps_start : Keeps start := by
  refine (keeps_onConnection fun d => ⟨[.start], rfl⟩).bind fun started => ?_
  cases started with
  | false => exact keeps_pure false
  | true =>
    have hreset : Keeps (modify fun s : Simulation =>
        { s with clock := ⟨s.clock.now, s.clock.now, s.clock.now⟩ }) := fun _ _ hs => hs.setClock _
    exact hreset.bind fun _ => keeps_tickDue.bind fun _ => keeps_pure true

theorem keeps_advanceTo (target left : Nat) : Keeps (advanceTo target left) := by
  induction left with
  | zero => exact fun _ _ hs => hs.setClock _
  | succ left ih =>
    intro c s hs
    rw [advanceTo, get_bind_apply]
    by_cases hdue : (s.connection.isPolling &&
        decide (min s.clock.blocksDue s.clock.transactionsDue ≤ target)) = true
    · have hrest := keeps_tickDue.bind fun _ => keeps_settle.bind fun _ => ih
      rw [if_pos hdue]
      exact hrest c _ (hs.setClock _)
    · rw [if_neg hdue]
      exact hs.setClock _

theorem keeps_advance (ms : Nat) : Keeps (advance ms) :=
  keeps_get.bind fun _ => keeps_advanceTo _ _

theorem keeps_newClient : Keeps newClient := by
  intro c s hs
  unfold newClient
  cases hnew : s.connection.newClient with
  | error e => exact hs
  | ok made =>
    obtain ⟨d, id⟩ := made
    have hmade := hs.act ⟨[.newClient], by
      simp only [Connection.run_cons, Connection.run_nil, Connection.step, hnew]; rfl⟩
    exact ⟨hmade.run, hmade.triggers⟩

theorem keeps_perform {command : Command}
    (h : ∀ t, command = .setTrigger t → t.effect ≠ .shutdown) : Keeps (perform command) := by
  cases command with
  | newClient => exact keeps_newClient.bind fun _ => keeps_pure ()
  | start => exact keeps_start.bind fun _ => keeps_pure ()
  | stop => exact keeps_onConnection fun d => ⟨[.stop []], rfl⟩
  | advance ms => exact keeps_advance ms
  | catchUp slot => exact (keeps_catchUp slot).bind fun _ => keeps_pure ()
  | watchAddressText slot text => exact keeps_modifyHub fun d => d.run_readAndWatch slot text
  | watchAddresses slot addresses =>
    exact keeps_modifyHub fun d => ⟨_, d.run_watchAddresses slot addresses⟩
  | act a => exact keeps_onConnection fun d => ⟨[a], rfl⟩
  | change f => exact fun _ _ hs => ⟨hs.run, hs.triggers⟩
  | claimBest best => exact fun _ _ hs => ⟨hs.run, hs.triggers⟩
  | setTrigger t =>
    refine fun _ _ hs => ⟨hs.run, fun u hu => ?_⟩
    obtain hu | hu := List.mem_append.1 hu
    · exact hs.triggers u hu
    · rw [List.mem_singleton.1 hu]
      exact h t rfl

theorem keeps_session {commands : List Command}
    (h : ∀ t, .setTrigger t ∈ commands → t.effect ≠ .shutdown) : Keeps (session commands) := by
  induction commands with
  | nil => exact keeps_pure ()
  | cons command rest ih =>
    have hfirst := keeps_perform fun t ht => h t (ht ▸ List.mem_cons_self)
    have hrest := ih fun t ht => h t (List.mem_cons_of_mem command ht)
    exact hfirst.bind fun _ => keeps_settle.bind fun _ => hrest

theorem opened_of_handshake {node : Node} {config : BackendConfig}
    (h : (Connection.handshake config Node.backend node).1 = .ok c) :
    ∃ best, c = .opened config best := by
  unfold Connection.handshake at h
  cases hvalid : config.validate with
  | error e => rw [hvalid] at h; cases h
  | ok _ =>
    rw [hvalid] at h
    simp only [Bind.bind, StateT.bind] at h
    generalize Node.backend.network node = network at h
    obtain ⟨_ | actual, asked⟩ := network
    · cases h
    · dsimp only at h
      split at h
      · cases h
      · simp only [StateT.bind, Bind.bind] at h
        generalize Node.backend.best asked = best at h
        obtain ⟨_ | best, _⟩ := best
        · cases h
        · exact ⟨best, (Except.ok.inj h).symm⟩

theorem opened_of_connect {node : Node} {config : BackendConfig}
    (h : (connect node config).1 = .ok s) :
    s.triggers = [] ∧ ∃ best, s.connection = .opened config best := by
  obtain ⟨c, hc, rfl⟩ := Outcome.map_eq_ok_iff.1 h
  exact ⟨rfl, opened_of_handshake hc⟩

/-- A session with a simulated connection is a run of the connection that was opened. -/
theorem session_is_run {node : Node} {config : BackendConfig} {commands : List Command}
    (hopened : (connect node config).1 = .ok s)
    (htriggers : ∀ t, .setTrigger t ∈ commands → t.effect ≠ .shutdown) :
    ∃ best actions,
      (session commands s).2.connection = (Connection.opened config best).run actions := by
  obtain ⟨hnone, best, hs⟩ := opened_of_connect hopened
  have hstart : Reached s.connection s := .refl (by simp [hnone])
  obtain ⟨actions, hrun⟩ := (keeps_session htriggers _ s hstart).run
  exact ⟨best, actions, hs ▸ hrun⟩

end Simulation

end ChainFeed
