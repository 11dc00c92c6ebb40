import ChainFeed.Proofs.Client.Inbox
import ChainFeed.Proofs.Run.Fanout

/-!
# What a step does to the clients

Every action does one of three things to the clients of a connection. It offers them the events that
it hands out, it operates on one of them, or it is about who is in the fan-out: then a client stays
as it is, is withdrawn, or is stopped.
-/

namespace ChainFeed

namespace Client

def withdraw (id : ClientId) (x : Client) : Client :=
  if x.id = id then { x with registered := false } else x

theorem withdraw_of_ne {id : ClientId} {x : Client} (h : x.id ≠ id) : x.withdraw id = x := if_neg h

theorem withdraw_of_eq {id : ClientId} {x : Client} (h : x.id = id) :
    x.withdraw id = { x with registered := false } := if_pos h

/-- Who is out of the fan-out stays as it is. -/
theorem withdraw_of_out {id : ClientId} {x : Client} (hout : x.registered = false) :
    x.withdraw id = x := by
  by_cases h : x.id = id
  · rw [withdraw_of_eq h, ← hout]
  · exact withdraw_of_ne h

/-- What becomes of a client when others are made, taken out or stopped, or it is itself. -/
inductive Dismissed (x : Client) : Client → Prop where
  | kept : Dismissed x x
  | withdrawn : Dismissed x { x with registered := false }
  | stopped : Dismissed x x.stop

theorem stop_of_stopped {x : Client} (hs : x.isStopped = true) (hempty : x.inbox = [])
    (hout : x.registered = false) : x.stop = x := by
  have hphase : x.phase = .stopped := of_decide_eq_true hs
  have hidle : x.isStarted = false := by simp [isStarted, hphase]
  rw [stop, hidle, Bool.false_and, if_neg Bool.false_ne_true, ← hphase, ← hempty, ← hout]

theorem stop_stop (x : Client) : x.stop.stop = x.stop := stop_of_stopped rfl rfl rfl

namespace Dismissed

variable {x y z : Client}

theorem trans (hy : Dismissed x y) (hz : Dismissed y z) : Dismissed x z := by
  cases hy with
  | kept => exact hz
  | withdrawn =>
    cases hz with
    | kept => exact .withdrawn
    | withdrawn => exact .withdrawn
    | stopped => exact .stopped
  | stopped =>
    cases hz with
    | kept => exact .stopped
    | withdrawn => exact .stopped
    | stopped =>
      rw [x.stop_stop]
      exact .stopped

theorem withdraw (x : Client) (id : ClientId) : Dismissed x (x.withdraw id) := by
  by_cases h : x.id = id
  · rw [withdraw_of_eq h]
    exact .withdrawn
  · rw [withdraw_of_ne h]
    exact .kept

/-- A client that has not been stopped has kept its inbox. -/
theorem inbox (hy : Dismissed x y) (hs : y.isStopped = false) : y.inbox = x.inbox := by
  cases hy with
  | kept => rfl
  | withdrawn => rfl
  | stopped => cases hs

end Dismissed

end Client

open Client

namespace Hub

variable (slot : Nat) (h : Hub)

theorem clients_unregister (id : ClientId) :
    (h.unregister id).clients = h.clients.map (Client.withdraw id) := rfl

theorem getElem?_unregisterAll : h.unregisterAll.clients[slot]? =
    h.clients[slot]?.map fun x => { x with registered := false } :=
  List.getElem?_map

theorem getElem?_stopClient {n : Nat} {y : Client} (hn : h.clients[n]? = some y) :
    (h.stopClient n).clients[slot]? =
      h.clients[slot]?.map fun x => (if n = slot then x.stop else x).withdraw y.id := by
  have hstop : (h.stopClient n).clients =
      (h.clients.modify n Client.stop).map (Client.withdraw y.id) := by
    rw [stopClient, hn]
    rfl
  rw [hstop, List.getElem?_map, List.getElem?_modify]
  cases h.clients[slot]? with
  | none => rfl
  | some x => rfl

/-- Every client of the first hub is there in the second, and at most dismissed. -/
def Dismisses (k : Hub) : Prop :=
  ∀ x, h.clients[slot]? = some x → ∃ y, k.clients[slot]? = some y ∧ x.Dismissed y

namespace Dismisses

variable {slot h} {k l : Hub}

theorem of_eq (he : k.clients = h.clients) : h.Dismisses slot k := by
  intro x hx
  exact ⟨x, by rw [he, hx], .kept⟩

theorem trans (hk : h.Dismisses slot k) (hl : k.Dismisses slot l) : h.Dismisses slot l := by
  intro x hx
  obtain ⟨y, hy, hxy⟩ := hk x hx
  obtain ⟨z, hz, hyz⟩ := hl y hy
  exact ⟨z, hz, hxy.trans hyz⟩

end Dismisses

theorem dismisses_stopClient (n : Nat) : h.Dismisses slot (h.stopClient n) := by
  cases hn : h.clients[n]? with
  | none =>
    apply Dismisses.of_eq
    rw [stopClient, hn]
  | some y =>
    intro x hx
    rw [h.getElem?_stopClient slot hn, hx]
    refine ⟨_, rfl, ?_⟩
    split
    · exact Dismissed.stopped.trans (.withdraw _ _)
    · exact .withdraw _ _

theorem dismisses_unregisterAll : h.Dismisses slot h.unregisterAll := by
  intro x hx
  refine ⟨{ x with registered := false }, ?_, .withdrawn⟩
  rw [getElem?_unregisterAll, hx]
  rfl

end Hub

namespace Connection

open Hub

variable (slot : Nat) (c : Connection)

theorem dismisses_closeClients (slots : List Nat) :
    c.hub.Dismisses slot (c.closeClients slots).hub := by
  induction slots generalizing c with
  | nil => exact .of_eq rfl
  | cons n rest ih =>
    have hn : c.hub.Dismisses slot (c.hub.stopClient n) := c.hub.dismisses_stopClient slot n
    rw [closeClients]
    split
    · exact hn
    · exact hn.trans (ih { c with hub := c.hub.stopClient n })

theorem dismisses_stop (order : List Nat) : c.hub.Dismisses slot (c.stop order).hub := by
  unfold stop
  split
  · exact .of_eq rfl
  · exact (c.hub.dismisses_unregisterAll slot).trans
      (dismisses_closeClients slot { c with hub := c.hub.unregisterAll, stopped := true } _)

theorem dismisses_continueStop : c.hub.Dismisses slot c.continueStop.hub := by
  unfold continueStop
  cases c.awaited with
  | none => exact .of_eq rfl
  | some n =>
    dsimp only
    split
    · exact .of_eq rfl
    · exact c.dismisses_closeClients slot _

def nextId (c : Connection) : ClientId := ⟨(c.allocated + 1).toUInt64⟩

/-- A new client takes its id from an earlier one. -/
theorem getElem?_newClient (hc : c.stopped = false) (hslot : slot ≠ c.hub.clients.length) :
    (c.step .newClient).hub.clients[slot]? =
      c.hub.clients[slot]?.map (Client.withdraw c.nextId) := by
  have hget (x : Client) : ((c.hub.addClient x).clients)[c.hub.clients.length]? = some x := by
    rw [addClient, List.getElem?_append_right (Nat.le_refl _), Nat.sub_self]
    rfl
  simp only [step, newClient, hc, Bool.false_eq_true, if_false, register, hget]
  change (List.modify (List.map (Client.withdraw c.nextId) _) _ _)[slot]? = _
  rw [List.getElem?_modify_ne _ _ hslot.symm, List.getElem?_map]
  congr 1
  rw [addClient]
  obtain hlt | hle := Nat.lt_or_ge slot c.hub.clients.length
  · exact List.getElem?_append_left hlt
  · rw [List.getElem?_eq_none hle, List.getElem?_eq_none]
    rw [List.length_append, List.length_singleton]
    omega

theorem newClient_of_stopped (hc : c.stopped = true) : c.step .newClient = c := by
  simp only [step, newClient, hc, if_true]

theorem dismisses_newClient : c.hub.Dismisses slot (c.step .newClient).hub := by
  cases hc : c.stopped with
  | true =>
    rw [c.newClient_of_stopped hc]
    exact .of_eq rfl
  | false =>
    intro x hx
    have hslot : slot ≠ c.hub.clients.length := by
      obtain ⟨hlt, _⟩ := List.getElem?_eq_some_iff.1 hx
      exact Nat.ne_of_lt hlt
    rw [c.getElem?_newClient slot hc hslot, hx]
    exact ⟨_, rfl, .withdraw x c.nextId⟩

end Connection

namespace Client

def started (x : Client) : Client :=
  match x.start with
  | .ok (y, _) => y
  | .error _ => x

/-- The client after its subscriber has asked for the blocks up to the watermark `w`. -/
def askedUpTo (w : Stamp) (x : Client) : Client :=
  if x.catchUp.isSome then x else x.startCatchUp w.height none

/-- The client after the answer to the fetch that it waits for, if it waits for one. -/
def answered (source : Source) (x : Client) : Client :=
  (x.resumeCatchUp (Connection.answerTo source x)).1

end Client

namespace Action

/-- The client that an action operates on. -/
def subject : Action → Option Nat
  | .watchScript n _ | .watchOutpoints n _ | .notifyBlocks n | .notifyAllMempool n
  | .startClient n | .catchUp n | .receiveBlock n _ | .receiveTransaction n _
  | .handle n | .leave n | .answerClient n _ => some n
  | _ => none

theorem subject_of_feed {a : Action} (ha : a.isFeed = true) : a.subject = none := by
  cases a with
  | tickBlocks => rfl
  | answerBlockPoller source => rfl
  | tickTransactions => rfl
  | answerTxPoller source => rfl
  | push e => rfl
  | _ => cases ha

/-- What the subscriber of a client, its handler or its fetch does to it, where `w` is the
watermark. -/
def operate (w : Stamp) : Action → Client → Client
  | .watchScript _ s, x => x.watchScript s
  | .watchOutpoints _ l, x => x.watchOutpoints l
  | .notifyBlocks _, x => { x with wantsBlocks := true }
  | .notifyAllMempool _, x => { x with wantsAll := true }
  | .startClient _, x => x.started
  | .catchUp _, x => x.askedUpTo w
  | .receiveBlock _ b, x => x.received b
  | .receiveTransaction _ t, x => (x.receiveTransaction t).1
  | .handle _, x => x.handle
  | .leave _, x => x.leave
  | .answerClient _ source, x => x.answered source
  | _, x => x

/-- Only the handler takes events out of an inbox. -/
theorem inbox_operate (w : Stamp) {a : Action} (ha : ∀ n, a ≠ .handle n) (x : Client) :
    (a.operate w x).inbox = x.inbox := by
  cases a with
  | handle n => exact absurd rfl (ha n)
  | startClient n =>
    simp only [operate, Client.started, Client.start]
    cases x.phase <;> rfl
  | catchUp n =>
    simp only [operate, askedUpTo]
    split
    · rfl
    · exact (Frame.startCatchUp x _ none).inbox
  | answerClient n source => exact (Frame.resumeCatchUp x _).inbox
  | receiveBlock n b => exact x.received_inbox b
  | receiveTransaction n t => exact x.receiveTransaction_inbox t
  | _ => rfl

/-- What a client was made with never changes. -/
theorem settings_operate (w : Stamp) (a : Action) (x : Client) :
    (a.operate w x).settings = x.settings := by
  cases a with
  | startClient n =>
    simp only [operate, Client.started, Client.start]
    cases x.phase <;> rfl
  | catchUp n =>
    simp only [operate, askedUpTo]
    split
    · rfl
    · exact x.settings_startCatchUp _ none
  | answerClient n source => exact x.settings_resumeCatchUp _
  | receiveBlock n b => exact x.settings_received b
  | receiveTransaction n t => exact x.settings_receiveTransaction t
  | handle n => exact x.settings_handle
  | _ => rfl

end Action

namespace Hub

variable {h : Hub} {n : Nat} {f g : Client → Client}

theorem modifyClient_congr (hfg : ∀ x, h.clients[n]? = some x → f x = g x) :
    h.modifyClient n f = h.modifyClient n g := by
  have hclients : h.clients.modify n f = h.clients.modify n g := by
    apply List.ext_getElem?
    intro i
    rw [List.getElem?_modify, List.getElem?_modify]
    by_cases hn : n = i
    · subst hn
      cases hi : h.clients[n]? with
      | none => rfl
      | some x => simp [hfg x hi]
    · simp [hn]
  rw [modifyClient, hclients, modifyClient]

theorem modifyClient_eq_self (hf : ∀ x, h.clients[n]? = some x → f x = x) :
    h.modifyClient n f = h := by
  rw [modifyClient_congr (g := id) hf, modifyClient, List.modify_id]

end Hub

namespace Connection

open Hub

section
variable (c : Connection) (n : Nat)

theorem step_startClient : c.step (.startClient n) = c.onClient n Client.started := by
  simp only [step, Hub.startClient, onClient, onHub]
  cases hn : c.hub.clients[n]? with
  | none => rw [modifyClient_eq_self fun y hy => by cases hn.symm.trans hy]
  | some x =>
    have hat {y : Client} (hy : c.hub.clients[n]? = some y) : y = x :=
      Option.some.inj (hy.symm.trans hn)
    cases hx : x.start with
    | ok r =>
      have hmodify : c.hub.modifyClient n Client.started = c.hub.modifyClient n fun _ => r.1 :=
        modifyClient_congr fun y hy => by rw [hat hy, Client.started, hx]
      rw [hmodify]
      simp only [hx]
      rfl
    | error e =>
      rw [modifyClient_eq_self fun y hy => by rw [hat hy, Client.started, hx]]
      simp only [hx]
      rfl

theorem clients_answerClient (source : Source) :
    (c.step (.answerClient n source)).hub.clients =
      (c.hub.modifyClient n (answered source)).clients := by
  simp only [step, answerClient]
  cases hn : c.hub.clients[n]? with
  | none =>
    refine congrArg Hub.clients (modifyClient_eq_self fun y hy => ?_).symm
    cases hn.symm.trans hy
  | some x =>
    have hat {y : Client} (hy : c.hub.clients[n]? = some y) : y = x :=
      Option.some.inj (hy.symm.trans hn)
    simp only [onHub, Hub.resumeCatchUp, hn]
    split
    · next hu =>
      refine congrArg Hub.clients (modifyClient_eq_self fun y hy => ?_).symm
      rw [hat hy, answered, resumeCatchUp_of_none (Option.isNone_iff_eq_none.1 hu)]
    · have hmodify : c.hub.modifyClient n (answered source) =
          c.hub.modifyClient n fun _ => (x.resumeCatchUp (answerTo source x)).1 := by
        refine modifyClient_congr fun y hy => ?_
        rw [hat hy, answered]
      rw [hmodify]
      cases answerTo source x with
      | error e => rfl
      | ok block => rfl

end

/-- An operation that brings no answer changes the client that it is about and nothing else. -/
theorem step_of_subject {c : Connection} {a : Action} {n : Nat} (ha : a.subject = some n)
    (hanswer : ∀ source, a ≠ .answerClient n source) :
    c.step a = c.onClient n (a.operate c.hub.watermark) := by
  cases a with
  | answerClient m source => exact absurd (Option.some.inj ha ▸ rfl) (hanswer source)
  | startClient m => exact Option.some.inj ha ▸ c.step_startClient m
  | watchScript m s => exact Option.some.inj ha ▸ rfl
  | watchOutpoints m l => exact Option.some.inj ha ▸ rfl
  | notifyBlocks m => exact Option.some.inj ha ▸ rfl
  | notifyAllMempool m => exact Option.some.inj ha ▸ rfl
  | catchUp m => exact Option.some.inj ha ▸ rfl
  | receiveBlock m b => exact Option.some.inj ha ▸ rfl
  | receiveTransaction m t => exact Option.some.inj ha ▸ rfl
  | handle m => exact Option.some.inj ha ▸ rfl
  | leave m => exact Option.some.inj ha ▸ rfl
  | _ => cases ha

/-- An operation changes the client that it is about and no other. -/
theorem clients_of_subject {c : Connection} {a : Action} {n : Nat} (ha : a.subject = some n) :
    (c.step a).hub.clients = (c.hub.modifyClient n (a.operate c.hub.watermark)).clients := by
  by_cases hanswer : ∃ source, a = .answerClient n source
  · obtain ⟨source, rfl⟩ := hanswer
    exact c.clients_answerClient n source
  · rw [step_of_subject ha fun source heq => hanswer ⟨source, heq⟩]
    rfl

section
variable (c : Connection)

theorem clients_of_no_listing (source : Source) (hask : c.hub.txPoller = .askingListing)
    (hnone : c.dispatched (.answerTxPoller source) = []) :
    (c.step (.answerTxPoller source)).hub.clients = c.hub.clients := by
  simp only [step, answerTxPoller, hask, onHub, clients_recordTick, listingArrived]
  cases hl : source.mempool with
  | error e => rfl
  | ok listing =>
    have hgone : (Delta.between c.hub.tracker listing).removed = [] := by
      simpa only [dispatched, hask, hl, List.map_eq_nil_iff] using hnone
    dsimp only
    split
    · rfl
    · have hreconciled : (c.hub.reconcile listing).1.removed = [] := hgone
      rw [clients_fetchNext, hreconciled]
      rfl

/-- A feed that hands out nothing leaves the clients as they are. -/
theorem clients_of_silent_feed {a : Action} (ha : a.isFeed = true) (hnone : c.dispatched a = []) :
    (c.step a).hub.clients = c.hub.clients := by
  cases a with
  | tickBlocks =>
    simp only [step]
    split
    · simp only [onHub, beginBlockTick]
      split <;> rfl
    · rfl
  | tickTransactions =>
    simp only [step]
    split
    · simp only [onHub, beginTxTick]
      split <;> rfl
    · rfl
  | answerBlockPoller source =>
    cases hp : c.hub.blockPoller with
    | idle => simp only [step, answerBlockPoller, hp]
    | askingBest =>
      simp only [step, answerBlockPoller, hp, onHub, clients_recordTick]
      unfold bestArrived
      split
      · rfl
      · split
        · split <;> rfl
        · rfl
      · rfl
    | walking next last done =>
      cases hs : source.block next with
      | error e =>
        simp only [step, answerBlockPoller, hp, hs, onHub, clients_recordTick, blockArrived]
        rfl
      | ok block => simp [dispatched, hp, hs] at hnone
  | answerTxPoller source =>
    cases hp : c.hub.txPoller with
    | idle => simp only [step, answerTxPoller, hp]
    | askingListing => exact c.clients_of_no_listing source hp hnone
    | fetching id rest report =>
      cases hs : source.transaction id with
      | error e =>
        simp only [step, answerTxPoller, hp, hs, onHub, clients_recordTick, transactionArrived,
          clients_fetchNext]
        rfl
      | ok t => simp [dispatched, hp, hs] at hnone
  | push e => cases hnone
  | _ => cases ha

/-- A feed offers every client what it hands out. -/
theorem clients_of_feed {a : Action} (ha : a.isFeed = true) :
    (c.step a).hub.clients = c.hub.clients.map fun x => x.offerAll (c.dispatched a) := by
  by_cases hnone : c.dispatched a = []
  · rw [c.clients_of_silent_feed ha hnone, hnone]
    exact (List.map_id' _).symm
  · exact c.clients_of_dispatched hnone

/-- What is neither a feed nor an operation dismisses clients at most. -/
theorem dismisses_step (slot : Nat) {a : Action} (hfeed : a.isFeed = false)
    (hnone : a.subject = none) : c.hub.Dismisses slot (c.step a).hub := by
  cases a with
  | newClient => exact c.dismisses_newClient slot
  | removeClient id =>
    intro x hx
    refine ⟨x.withdraw id, ?_, .withdraw x id⟩
    simp only [step, removeClient, clients_unregister, List.getElem?_map, hx]
    rfl
  | start =>
    apply Dismisses.of_eq
    simp only [step, Connection.start]
    split <;> rfl
  | stop order => exact c.dismisses_stop slot order
  | continueStop => exact c.dismisses_continueStop slot
  | stopClient n => exact c.hub.dismisses_stopClient slot n
  | tickBlocks => cases hfeed
  | answerBlockPoller source => cases hfeed
  | tickTransactions => cases hfeed
  | answerTxPoller source => cases hfeed
  | push e => cases hfeed
  | _ => cases hnone

end

theorem dispatched_of_not_feed {c : Connection} {a : Action} (ha : a.isFeed = false) :
    c.dispatched a = [] := by
  cases a with
  | push e => cases ha
  | answerBlockPoller source => cases ha
  | answerTxPoller source => cases ha
  | _ => rfl

/-- The three ways in which a step can change the client at `slot`. -/
inductive Effect (slot : Nat) (c : Connection) (x : Client) (a : Action) (y : Client) : Prop where
  | fed (ha : a.isFeed = true) (hy : y = x.offerAll (c.dispatched a))
  | operated (ha : a.isFeed = false) (hsubject : a.subject = some slot)
      (hy : y = a.operate c.hub.watermark x)
  | dismissed (ha : a.isFeed = false) (hsubject : a.subject ≠ some slot) (hy : x.Dismissed y)

theorem effect_of_getElem? {slot : Nat} {c : Connection} {a : Action} {x y : Client}
    (hx : c.hub.clients[slot]? = some x) (hy : (c.step a).hub.clients[slot]? = some y) :
    c.Effect slot x a y := by
  cases hfeed : a.isFeed with
  | true =>
    rw [c.clients_of_feed hfeed, List.getElem?_map, hx] at hy
    exact .fed hfeed (Option.some.inj hy).symm
  | false =>
    cases hsubject : a.subject with
    | none =>
      obtain ⟨z, hz, hxz⟩ := c.dismisses_step slot hfeed hsubject x hx
      obtain rfl : z = y := Option.some.inj (hz.symm.trans hy)
      exact .dismissed hfeed (by simp [hsubject]) hxz
    | some n =>
      rw [clients_of_subject hsubject, modifyClient, List.getElem?_modify, hx] at hy
      by_cases hn : n = slot
      · subst hn
        simp only [if_true] at hy
        exact .operated hfeed hsubject (Option.some.inj hy).symm
      · simp only [if_neg hn] at hy
        obtain rfl : x = y := Option.some.inj hy
        exact .dismissed hfeed (by simp [hsubject, hn]) .kept

theorem settings_step {slot : Nat} {c : Connection} {a : Action} {x y : Client}
    (hx : c.hub.clients[slot]? = some x) (hy : (c.step a).hub.clients[slot]? = some y) :
    y.settings = x.settings := by
  cases effect_of_getElem? hx hy with
  | fed _ heq =>
    obtain ⟨accepted, _, hoffered⟩ := x.offerAll_eq (c.dispatched a)
    rw [heq, hoffered]
    rfl
  | operated _ _ heq =>
    rw [heq]
    exact a.settings_operate c.hub.watermark x
  | dismissed _ _ hdismissed =>
    cases hdismissed with
    | kept => rfl
    | withdrawn => rfl
    | stopped => rfl

end Connection

end ChainFeed
