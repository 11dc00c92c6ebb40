import ChainFeed.Connection.Run
import ChainFeed.Proofs.Client.Standing

/-!
# One client in a run

Clients keep their places, and whatever a connection does, each of them makes moves only, on which
no event comes in but those that the step hands out. Four actions of a subscriber are no moves, and
`Connection.ClientStep` names them.
-/

namespace ChainFeed

open Client

/-- The events that a step hands out, in order: pushed ones, and those that a poller finds. -/
def Connection.dispatched (c : Connection) : Action → List Event
  | .push e => [e]
  | .answerBlockPoller source =>
    match c.hub.blockPoller with
    | .walking next _ _ =>
      match source.block next with
      | .ok block => [.blockConnected ⟨next, block⟩]
      | .error _ => []
    | _ => []
  | .answerTxPoller source =>
    match c.hub.txPoller with
    | .idle => []
    | .askingListing =>
      match source.mempool with
      | .ok listing => (Delta.between c.hub.tracker listing).removed.map .transactionRemoved
      | .error _ => []
    | .fetching txid _ _ =>
      match source.transaction txid with
      | .ok t => [.transactionAdded t]
      | .error _ => []
  | _ => []

/-- The answer that a step brings to the client at `slot`, with the height that it waits for. -/
def Connection.answersAt (slot : Nat) (c : Connection) : Action → List (Height × Except Error Block)
  | .answerClient n source =>
    if n = slot then
      ((c.hub.clients[slot]?.bind Client.catchUp).map fun u =>
        (u.next, source.block u.next)).toList
    else []
  | _ => []

/-- What a step lets come to the client at `slot`. -/
def Connection.inputs (slot : Nat) (c : Connection) (a : Action) : Input where
  event e := e ∈ c.dispatched a
  target h := a = .catchUp slot ∧ h = c.hub.watermark.height
  answer h r := (h, r) ∈ c.answersAt slot a

/-- Whether an action reaches past the inbox or into the watch-list of the client at `slot`. -/
def Action.reaches (slot : Nat) : Action → Bool
  | .watchScript n _ | .watchOutpoints n _ | .receiveBlock n _ | .receiveTransaction n _ => n = slot
  | _ => false

namespace Hub

/-- The client at `slot` of the first hub is there in the second, some moves later, and a slot
that is free stays free. -/
def Carries (given : Input) (slot : Nat) (h k : Hub) : Prop :=
  Option.Rel (Moves given) h.clients[slot]? k.clients[slot]?

variable {given : Input}

namespace Carries

variable {slot : Nat} {h k l : Hub}

theorem of_some (hk : Carries given slot h k) {x : Client} (hx : h.clients[slot]? = some x) :
    ∃ y, k.clients[slot]? = some y ∧ Moves given x y := by
  rw [Carries, hx] at hk
  cases hy : k.clients[slot]? with
  | none =>
    rw [hy] at hk
    cases hk
  | some y =>
    rw [hy] at hk
    exact ⟨y, rfl, Option.rel_some_some.1 hk⟩

theorem of_none (hk : Carries given slot h k) (hx : h.clients[slot]? = none) :
    k.clients[slot]? = none := by
  rw [Carries, hx] at hk
  cases hy : k.clients[slot]? with
  | none => rfl
  | some y =>
    rw [hy] at hk
    cases hk

theorem of_getElem?_eq (he : k.clients[slot]? = h.clients[slot]?) : Carries given slot h k := by
  rw [Carries, he]
  cases h.clients[slot]? with
  | none => exact .none
  | some x => exact .some .refl

theorem of_eq (he : k.clients = h.clients) : Carries given slot h k :=
  of_getElem?_eq (by rw [he])

theorem trans (hk : Carries given slot h k) (hl : Carries given slot k l) :
    Carries given slot h l := by
  cases hx : h.clients[slot]? with
  | none =>
    rw [Carries, hx, hl.of_none (hk.of_none hx)]
    exact .none
  | some x =>
    obtain ⟨y, hy, hxy⟩ := hk.of_some hx
    obtain ⟨z, hz, hyz⟩ := hl.of_some hy
    rw [Carries, hx, hz]
    exact .some (hxy.trans hyz)

theorem of_map {f : Client → Client} (hf : ∀ x, Moves given x (f x))
    (he : k.clients = h.clients.map f) : Carries given slot h k := by
  rw [Carries, he, List.getElem?_map]
  cases h.clients[slot]? with
  | none => exact .none
  | some x => exact .some (hf x)

theorem of_modify {n : Nat} {f : Client → Client}
    (hf : n = slot → ∀ x, h.clients[n]? = some x → Moves given x (f x))
    (he : k.clients = h.clients.modify n f) : Carries given slot h k := by
  by_cases hn : n = slot
  · subst hn
    rw [Carries, he, List.getElem?_modify_eq]
    cases hx : h.clients[n]? with
    | none => exact .none
    | some x => exact .some (hf rfl x hx)
  · exact of_getElem?_eq (by rw [he, List.getElem?_modify_ne _ _ hn])

end Carries

section
variable (slot : Nat) (h : Hub)

theorem carries_modifyClient {n : Nat} {f : Client → Client}
    (hf : n = slot → ∀ x, Moves given x (f x)) : Carries given slot h (h.modifyClient n f) :=
  .of_modify (fun hn x _ => hf hn x) rfl

theorem carries_unregister (id : ClientId) : Carries given slot h (h.unregister id) := by
  apply Carries.of_map (f := fun c => if c.id = id then { c with registered := false } else c) _ rfl
  intro x
  split
  · exact .single (.unregister x)
  · exact .refl

theorem carries_unregisterAll : Carries given slot h h.unregisterAll :=
  .of_map (fun x => .single (.unregister x)) rfl

/-- To register a client bears on the others only by taking its id from them. -/
theorem carries_register {n : Nat} (hn : n ≠ slot) : Carries given slot h (h.register n) := by
  unfold register
  cases h.clients[n]? with
  | none => exact .of_eq rfl
  | some c =>
    exact (h.carries_unregister slot c.id).trans (.of_modify (fun h' => absurd h' hn) rfl)

theorem carries_addClient {c : Client} (hslot : slot ≠ h.clients.length) :
    Carries given slot h (h.addClient c) := by
  apply Carries.of_getElem?_eq
  rw [addClient]
  obtain hlt | hle := Nat.lt_or_ge slot h.clients.length
  · exact List.getElem?_append_left hlt
  · rw [List.getElem?_eq_none hle, List.getElem?_eq_none]
    rw [List.length_append, List.length_singleton]
    omega

theorem carries_stopClient (n : Nat) : Carries given slot h (h.stopClient n) := by
  unfold stopClient
  cases h.clients[n]? with
  | none => exact .of_eq rfl
  | some c =>
    exact (h.carries_modifyClient slot (fun _ x => .single (.stop x))).trans
      (carries_unregister slot _ c.id)

theorem carries_fanOut (wants : Client → Bool) {e : Event} (hgiven : given.event e) :
    Carries given slot h (h.fanOut wants e).1 :=
  .of_map (fun x => x.moves_offer wants hgiven) rfl

@[simp] theorem clients_advance (s : Stamp) : (h.advance s).clients = h.clients := by
  unfold advance
  split <;> rfl

theorem carries_dispatchBlock {b : PlacedBlock} (hgiven : given.event (.blockConnected b)) :
    Carries given slot h (h.dispatchBlock b).1 :=
  (h.carries_fanOut slot (fun _ => true) hgiven).trans (.of_eq (clients_advance _ b.stamp))

theorem carries_dispatchTransaction {t : Transaction} (hgiven : given.event (.transactionAdded t)) :
    Carries given slot h (h.dispatchTransaction t).1 :=
  (Carries.of_eq rfl).trans
    (((h.track t.txid).carries_fanOut slot _ hgiven).trans (.of_eq rfl))

theorem carries_dispatchRemoval {id : Txid} (hgiven : given.event (.transactionRemoved id)) :
    Carries given slot h (h.dispatchRemoval id).1 :=
  (Carries.of_eq rfl).trans ((h.untrack id).carries_fanOut slot _ hgiven)

theorem carries_dispatch {e : Event} (hgiven : given.event e) :
    Carries given slot h (h.dispatch e).1 := by
  cases e with
  | blockConnected b => exact h.carries_dispatchBlock slot hgiven
  | transactionAdded t => exact h.carries_dispatchTransaction slot hgiven
  | transactionRemoved id => exact h.carries_dispatchRemoval slot hgiven

theorem carries_removals {ids : List Txid}
    (hgiven : ∀ id ∈ ids, given.event (.transactionRemoved id)) :
    Carries given slot h (ids.foldl (fun h id => (h.dispatchRemoval id).1) h) := by
  induction ids generalizing h with
  | nil => exact .of_eq rfl
  | cons id rest ih =>
    exact (h.carries_dispatchRemoval slot (hgiven id List.mem_cons_self)).trans
      (ih _ (fun id' h' => hgiven id' (List.mem_cons_of_mem _ h')))

@[simp] theorem clients_fetchNext (report : TxTick) (ids : List Txid) :
    (h.fetchNext report ids).1.clients = h.clients := by
  cases ids with
  | nil => rfl
  | cons id rest =>
    rw [fetchNext]
    split <;> rfl

theorem carries_bestArrived (answer : Except Error Stamp) :
    Carries given slot h (h.bestArrived answer).1 := by
  apply Carries.of_eq
  unfold bestArrived
  split
  · rfl
  · split
    · split <;> rfl
    · rfl
  · rfl

theorem carries_blockArrived {answer : Except Error Block}
    (hgiven : ∀ next last done block, h.blockPoller = .walking next last done →
      answer = .ok block → given.event (.blockConnected ⟨next, block⟩)) :
    Carries given slot h (h.blockArrived answer).1 := by
  unfold blockArrived
  split
  · exact .of_eq rfl
  · next next last done block hp =>
    refine (Carries.of_eq rfl).trans ((h.countPolledBlock.carries_dispatchBlock slot
      (hgiven next last done block hp rfl)).trans (.of_eq ?_))
    dsimp only
    split <;> rfl
  · exact .of_eq rfl

theorem carries_listingArrived {answer : Except Error (List Txid)}
    (hgiven : ∀ listing, answer = .ok listing →
      ∀ id ∈ (Delta.between h.tracker listing).removed, given.event (.transactionRemoved id)) :
    Carries given slot h (h.listingArrived answer).1 := by
  unfold listingArrived
  split
  · exact .of_eq rfl
  · next listing _ =>
    dsimp only
    split
    · exact .of_eq rfl
    · exact (Carries.of_eq rfl).trans (((h.reconcile listing).2.carries_removals slot
        (hgiven listing rfl)).trans (.of_eq (clients_fetchNext ..)))
  · exact .of_eq rfl

theorem carries_transactionArrived {answer : Except Error Transaction}
    (hgiven : ∀ t, answer = .ok t → given.event (.transactionAdded t)) :
    Carries given slot h (h.transactionArrived answer).1 := by
  unfold transactionArrived
  split
  · exact .of_eq (clients_fetchNext ..)
  · next t _ =>
    exact (Carries.of_eq rfl).trans
      ((h.countPolledTransaction.carries_dispatchTransaction slot (hgiven t rfl)).trans
        (.of_eq (clients_fetchNext ..)))
  · exact .of_eq rfl

theorem carries_startCatchUp {n : Nat} (hgiven : n = slot → given.target h.watermark.height) :
    Carries given slot h (h.startCatchUp n) := by
  apply carries_modifyClient
  intro hn x
  split
  · exact .refl
  · next hu => exact .single (.catchUp x _ (hgiven hn) (by simpa using hu))

theorem carries_resumeCatchUp {n : Nat} {answer : Except Error Block}
    (hgiven : n = slot → ∀ x u, h.clients[n]? = some x → x.catchUp = some u →
      given.answer u.next answer) :
    Carries given slot h (h.resumeCatchUp n answer).1 := by
  unfold resumeCatchUp
  cases hn : h.clients[n]? with
  | none => exact .of_eq rfl
  | some c =>
    dsimp only
    split
    · exact .of_eq rfl
    · next hu =>
      have hm : Carries given slot h (h.modifyClient n fun _ => (c.resumeCatchUp answer).1) := by
        refine .of_modify (fun hslot x hx => ?_) rfl
        obtain rfl : c = x := Option.some.inj (hn.symm.trans hx)
        obtain ⟨u, hu⟩ := Option.ne_none_iff_exists'.1 (mt Option.isNone_iff_eq_none.2 hu)
        exact .single (.resume c u answer hu (hgiven hslot c u hn hu))
      cases answer with
      | error e => exact hm.trans (.of_eq rfl)
      | ok block => exact hm

theorem carries_startClient {n : Nat} {k : Hub} {b : Bool} (hk : h.startClient n = .ok (k, b)) :
    Carries given slot h k := by
  unfold startClient at hk
  cases hn : h.clients[n]? with
  | none =>
    obtain ⟨rfl, _⟩ : h = k ∧ false = b := by simpa [hn] using hk
    exact .of_eq rfl
  | some c =>
    cases hc : c.start with
    | error e =>
      rw [hn] at hk
      simp only [hc] at hk
      cases hk
    | ok r =>
      rw [hn] at hk
      simp only [hc] at hk
      cases hk
      refine .of_modify (fun _ x hx => ?_) rfl
      obtain rfl : c = x := Option.some.inj (hn.symm.trans hx)
      exact moves_of_start hc

end

end Hub

namespace Connection

open Hub

variable (slot : Nat) (c : Connection)

@[simp] theorem clients_recordTick {α : Type} (r : Hub × Option (Except Error α)) :
    (recordTick r).clients = r.1.clients := by
  unfold recordTick
  split <;> rfl

theorem carries_recordTick {α : Type} (r : Hub × Option (Except Error α)) :
    Carries given slot r.1 (recordTick r) :=
  .of_eq (clients_recordTick r)

theorem carries_closeClients (slots : List Nat) :
    Carries given slot c.hub (c.closeClients slots).hub := by
  induction slots generalizing c with
  | nil => exact .of_eq rfl
  | cons n rest ih =>
    have hn : Carries given slot c.hub (c.hub.stopClient n) := c.hub.carries_stopClient slot n
    rw [closeClients]
    split
    · exact hn
    · exact hn.trans (ih { c with hub := c.hub.stopClient n })

theorem carries_newClient {d : Connection} {id : ClientId} (h : c.newClient = .ok (d, id))
    (hslot : slot ≠ c.hub.clients.length) : Carries given slot c.hub d.hub := by
  unfold newClient at h
  split at h
  · cases h
  · cases h
    exact (c.hub.carries_addClient slot hslot).trans (carries_register slot _ hslot.symm)

theorem carries_stop (order : List Nat) : Carries given slot c.hub (c.stop order).hub := by
  unfold stop
  split
  · exact .of_eq rfl
  · exact (c.hub.carries_unregisterAll slot).trans
      (carries_closeClients slot { c with hub := c.hub.unregisterAll, stopped := true } _)

theorem carries_continueStop : Carries given slot c.hub c.continueStop.hub := by
  unfold continueStop
  cases c.awaited with
  | none => exact .of_eq rfl
  | some n =>
    dsimp only
    split
    · exact .of_eq rfl
    · exact c.carries_closeClients slot _

theorem carries_answerBlockPoller (source : Source)
    (hgiven : ∀ e ∈ c.dispatched (.answerBlockPoller source), given.event e) :
    Carries given slot c.hub (c.answerBlockPoller source).hub := by
  unfold answerBlockPoller
  simp only [dispatched] at hgiven
  cases hp : c.hub.blockPoller with
  | idle => exact .of_eq rfl
  | askingBest => exact (carries_bestArrived slot _ _).trans (carries_recordTick slot _)
  | walking next last done =>
    refine (carries_blockArrived slot _ ?_).trans (carries_recordTick slot _)
    rintro _ _ _ block hw hb
    cases hp.symm.trans hw
    exact hgiven _ (by simp [hp, hb])

theorem carries_answerTxPoller (source : Source)
    (hgiven : ∀ e ∈ c.dispatched (.answerTxPoller source), given.event e) :
    Carries given slot c.hub (c.answerTxPoller source).hub := by
  unfold answerTxPoller
  simp only [dispatched] at hgiven
  cases hp : c.hub.txPoller with
  | idle => exact .of_eq rfl
  | askingListing =>
    refine (carries_listingArrived slot _ ?_).trans (carries_recordTick slot _)
    intro listing hl id hid
    exact hgiven _ (by simpa [hp, hl] using hid)
  | fetching id rest report =>
    refine (carries_transactionArrived slot _ ?_).trans (carries_recordTick slot _)
    intro t ht
    exact hgiven _ (by simp [hp, ht])

theorem carries_answerClient {n : Nat} {source : Source} (hgiven : n = slot → ∀ x u,
    c.hub.clients[n]? = some x → x.catchUp = some u →
      given.answer u.next (source.block u.next)) :
    Carries given slot c.hub (c.answerClient n source).hub := by
  unfold answerClient
  cases hn : c.hub.clients[n]? with
  | none => exact .of_eq rfl
  | some x =>
    refine carries_resumeCatchUp slot _ fun hslot y u hy hu => ?_
    obtain rfl : x = y := Option.some.inj (hn.symm.trans hy)
    simp only [answerTo, hu]
    exact hgiven hslot x u hn hu

/-- A step that does not reach past the inbox of a client lets it make moves only. -/
theorem carries_step {a : Action} (hout : a.reaches slot = false)
    (hslot : a = .newClient → slot ≠ c.hub.clients.length) :
    Carries (c.inputs slot a) slot c.hub (c.step a).hub := by
  cases a with
  | newClient =>
    simp only [step]
    cases hn : c.newClient with
    | error e => exact .of_eq rfl
    | ok r => exact c.carries_newClient slot hn (hslot rfl)
  | removeClient id => exact c.hub.carries_unregister slot id
  | start =>
    simp only [step, start]
    split <;> exact .of_eq rfl
  | stop order => exact c.carries_stop slot order
  | continueStop => exact c.carries_continueStop slot
  | watchScript n s => exact .of_modify (fun hn => absurd hn (of_decide_eq_false hout)) rfl
  | watchOutpoints n l => exact .of_modify (fun hn => absurd hn (of_decide_eq_false hout)) rfl
  | notifyBlocks n => exact c.hub.carries_modifyClient slot (fun _ x => .single (.wantBlocks x))
  | notifyAllMempool n => exact c.hub.carries_modifyClient slot (fun _ x => .single (.wantAll x))
  | startClient n =>
    simp only [step]
    cases hn : c.hub.startClient n with
    | error e => exact .of_eq rfl
    | ok r => exact c.hub.carries_startClient slot hn
  | stopClient n => exact c.hub.carries_stopClient slot n
  | catchUp n => exact c.hub.carries_startCatchUp slot (fun hn => ⟨by rw [hn], rfl⟩)
  | receiveBlock n b => exact .of_modify (fun hn => absurd hn (of_decide_eq_false hout)) rfl
  | receiveTransaction n t => exact .of_modify (fun hn => absurd hn (of_decide_eq_false hout)) rfl
  | handle n => exact c.hub.carries_modifyClient slot (fun _ x => .single (.handle x))
  | leave n => exact c.hub.carries_modifyClient slot (fun _ x => .single (.leave x))
  | answerClient n source =>
    refine c.carries_answerClient slot fun hn x u hx hu => ?_
    subst hn
    simp [inputs, answersAt, hx, hu]
  | tickBlocks =>
    apply Carries.of_eq
    simp only [step]
    split
    · simp only [onHub, beginBlockTick]
      split <;> rfl
    · rfl
  | answerBlockPoller source => exact c.carries_answerBlockPoller slot source (fun _ he => he)
  | tickTransactions =>
    apply Carries.of_eq
    simp only [step]
    split
    · simp only [onHub, beginTxTick]
      split <;> rfl
    · rfl
  | answerTxPoller source => exact c.carries_answerTxPoller slot source (fun _ he => he)
  | push e => exact c.hub.carries_dispatch slot (List.mem_singleton_self e)

variable {slot c} in
theorem source_of_mem_answersAt {a : Action} {h : Height} {r : Except Error Block}
    (hr : (h, r) ∈ c.answersAt slot a) : ∃ source, a = .answerClient slot source ∧
      r = source.block h := by
  cases a with
  | answerClient n source =>
    simp only [answersAt] at hr
    split at hr
    · next hn =>
      obtain ⟨u, _, hu⟩ := Option.map_eq_some_iff.1 (Option.mem_toList.1 hr)
      cases hu
      exact ⟨source, by rw [hn], rfl⟩
    · cases hr
  | _ => cases hr

theorem getElem?_onClient (n : Nat) (f : Client → Client) (x : Client)
    (hx : c.hub.clients[slot]? = some x) :
    (c.onClient n f).hub.clients[slot]? = some (if n = slot then f x else x) := by
  change (c.hub.clients.modify n f)[slot]? = _
  by_cases hn : n = slot
  · subst hn
    rw [List.getElem?_modify_eq, hx, if_pos rfl]
    rfl
  · rw [List.getElem?_modify_ne _ _ hn, hx, if_neg hn]

/-- The ways in which a step can bear on the client at `slot`. -/
inductive ClientStep (x : Client) : Action → Client → Prop where
  | moves {a : Action} {y : Client} (hout : a.reaches slot = false)
      (hm : Moves (c.inputs slot a) x y) : ClientStep x a y
  | watchScript (s : Script) : ClientStep x (.watchScript slot s) (x.watchScript s)
  | watchOutpoints (l : List OutPoint) :
      ClientStep x (.watchOutpoints slot l) (x.watchOutpoints l)
  | receiveTransaction (t : Transaction) :
      ClientStep x (.receiveTransaction slot t) (x.receiveTransaction t).1
  | receiveBlock (b : PlacedBlock) : ClientStep x (.receiveBlock slot b) (x.received b)

/-- The four actions that reach the client at `slot` change it, if there is one. -/
theorem step_of_reaches {a : Action} (ha : a.reaches slot = true) : ∃ f : Client → Client,
    c.step a = c.onClient slot f ∧ ∀ x, c.ClientStep slot x a (f x) := by
  cases a with
  | watchScript n s =>
    obtain rfl : n = slot := of_decide_eq_true ha
    exact ⟨_, rfl, fun x => .watchScript s⟩
  | watchOutpoints n l =>
    obtain rfl : n = slot := of_decide_eq_true ha
    exact ⟨_, rfl, fun x => .watchOutpoints l⟩
  | receiveBlock n b =>
    obtain rfl : n = slot := of_decide_eq_true ha
    exact ⟨_, rfl, fun x => .receiveBlock b⟩
  | receiveTransaction n t =>
    obtain rfl : n = slot := of_decide_eq_true ha
    exact ⟨_, rfl, fun x => .receiveTransaction t⟩
  | _ => cases ha

theorem step_client (a : Action) {x : Client} (hx : c.hub.clients[slot]? = some x) :
    ∃ y, (c.step a).hub.clients[slot]? = some y ∧ c.ClientStep slot x a y := by
  cases hout : a.reaches slot with
  | true =>
    obtain ⟨f, hf, hstep⟩ := c.step_of_reaches slot hout
    exact ⟨f x, by rw [hf, getElem?_onClient slot c slot f x hx, if_pos rfl], hstep x⟩
  | false =>
    have hslot : slot < c.hub.clients.length := (List.getElem?_eq_some_iff.1 hx).1
    obtain ⟨y, hy, hm⟩ := (c.carries_step slot hout fun _ => Nat.ne_of_lt hslot).of_some hx
    exact ⟨y, hy, .moves hout hm⟩

/-- A client is made by `newClient` only, behind all others. -/
theorem step_free {a : Action} (hnew : a = .newClient → slot ≠ c.hub.clients.length)
    (hx : c.hub.clients[slot]? = none) : (c.step a).hub.clients[slot]? = none := by
  cases hout : a.reaches slot with
  | true =>
    obtain ⟨f, hf, _⟩ := c.step_of_reaches slot hout
    rw [hf]
    change (c.hub.clients.modify slot f)[slot]? = none
    rw [List.getElem?_modify_eq, hx]
    rfl
  | false => exact (c.carries_step slot hout hnew).of_none hx

variable {slot c} in
theorem clientStep_of_getElem? {a : Action} {x y : Client} (hx : c.hub.clients[slot]? = some x)
    (hy : (c.step a).hub.clients[slot]? = some y) : c.ClientStep slot x a y := by
  obtain ⟨z, hz, hstep⟩ := c.step_client slot a hx
  obtain rfl : z = y := Option.some.inj (hz.symm.trans hy)
  exact hstep

variable {slot c} in
theorem registered_of_step {a : Action} {x y : Client} (hx : c.hub.clients[slot]? = some x)
    (hy : (c.step a).hub.clients[slot]? = some y) (hin : y.registered = true) :
    x.registered = true := by
  cases clientStep_of_getElem? hx hy with
  | moves _ hm => exact hm.registered hin
  | watchScript s => exact hin
  | watchOutpoints l => exact hin
  | receiveTransaction t => exact (SamePlace.receiveTransaction x t).registered ▸ hin
  | receiveBlock b =>
    by_cases hp : x.best.Precedes b.height
    · rwa [received_of_precedes hp] at hin
    · rwa [received_of_not_precedes hp] at hin

variable {slot c} in
theorem registered_of_run {actions : List Action} {x y : Client}
    (hx : c.hub.clients[slot]? = some x) (hy : (c.run actions).hub.clients[slot]? = some y)
    (hin : y.registered = true) : x.registered = true := by
  induction actions generalizing c x with
  | nil =>
    obtain rfl : x = y := Option.some.inj (hx.symm.trans hy)
    exact hin
  | cons a rest ih =>
    obtain ⟨z, hz, _⟩ := c.step_client slot a hx
    exact registered_of_step hx hz (ih hz hy)

/-- No event comes into an inbox but those that the step hands out. -/
theorem mem_inbox_step (a : Action) {x y : Client} (hx : c.hub.clients[slot]? = some x)
    (hy : (c.step a).hub.clients[slot]? = some y) {e : Event} (he : e ∈ y.inbox) :
    e ∈ x.inbox ∨ e ∈ c.dispatched a := by
  cases clientStep_of_getElem? hx hy with
  | moves _ hm => exact hm.mem_inbox he
  | watchScript s => exact .inl he
  | watchOutpoints l => exact .inl he
  | receiveTransaction t =>
    by_cases ht : t.txid ∈ x.mirror
    · rw [receiveTransaction_of_mem ht] at he
      exact .inl he
    · rw [receiveTransaction_of_not_mem ht] at he
      exact .inl he
  | receiveBlock b =>
    by_cases hp : x.best.Precedes b.height
    · rw [received_of_precedes hp] at he
      exact .inl he
    · rw [received_of_not_precedes hp] at he
      exact .inl he

/-- A transaction that a step hands out is offered to the clients that it concerns. -/
theorem clients_of_added {a : Action} {t : Transaction}
    (ht : .transactionAdded t ∈ c.dispatched a) : (c.step a).hub.clients =
      c.hub.clients.map (Client.offer (fun x => x.wantsTransaction t) (.transactionAdded t)) := by
  cases a with
  | push e =>
    obtain rfl : .transactionAdded t = e := List.mem_singleton.1 ht
    rfl
  | answerBlockPoller source =>
    simp only [dispatched] at ht
    split at ht
    · split at ht
      · cases List.mem_singleton.1 ht
      · cases ht
    · cases ht
  | answerTxPoller source =>
    simp only [dispatched] at ht
    cases hp : c.hub.txPoller with
    | idle => simp [hp] at ht
    | askingListing =>
      simp only [hp] at ht
      split at ht
      · obtain ⟨_, _, h⟩ := List.mem_map.1 ht
        cases h
      · cases ht
    | fetching txid rest report =>
      simp only [hp] at ht
      cases hs : source.transaction txid with
      | error e => simp [hs] at ht
      | ok t' =>
        obtain rfl : t = t' := by simpa [hs] using ht
        simp only [step, answerTxPoller, hp, hs, onHub, clients_recordTick, transactionArrived,
          clients_fetchNext]
        rfl
  | _ => cases ht

/-- What moves and the subscriber's own changes keep, a run keeps that hands no block past the
inbox. -/
theorem run_keep {P : Client → Prop} (hmove : ∀ {given x y}, Move given x y → P x → P y)
    (hscript : ∀ {x} s, P x → P (x.watchScript s))
    (hwatch : ∀ {x} l, P x → P (x.watchOutpoints l))
    (hreceive : ∀ {x} t, P x → P (x.receiveTransaction t).1) (actions : List Action)
    (hpast : ∀ b, .receiveBlock slot b ∉ actions) {x : Client}
    (hx : c.hub.clients[slot]? = some x) (hP : P x) :
    ∃ y, (c.run actions).hub.clients[slot]? = some y ∧ P y := by
  induction actions generalizing c x with
  | nil => exact ⟨x, hx, hP⟩
  | cons a rest ih =>
    obtain ⟨y, hy, hstep⟩ := c.step_client slot a hx
    refine ih (c.step a) (fun b hb => hpast b (List.mem_cons_of_mem _ hb)) hy ?_
    cases hstep with
    | moves _ hm => exact hm.keep hmove hP
    | watchScript s => exact hscript s hP
    | watchOutpoints l => exact hwatch l hP
    | receiveTransaction t => exact hreceive t hP
    | receiveBlock b => exact absurd List.mem_cons_self (hpast b)

/-- A new client stands at the watermark, registered, behind all others. -/
theorem newClient_client (hc : c.stopped = false) :
    (c.step .newClient).hub.clients[c.hub.clients.length]? = some { Client.new
      ⟨(c.allocated + 1).toUInt64⟩ c.config.network c.config.autoCatchUp
      c.config.clientBuffer.toNat c.hub.watermark with registered := true } := by
  have hget (x : Client) : ((c.hub.addClient x).clients)[c.hub.clients.length]? = some x := by
    rw [addClient, List.getElem?_append_right (Nat.le_refl _), Nat.sub_self]
    rfl
  simp only [step, newClient, hc, Bool.false_eq_true, if_false, register, hget]
  change (List.modify (List.map _ _) _ _)[c.hub.clients.length]? = _
  rw [List.getElem?_modify_eq, List.getElem?_map, hget]
  simp only [Option.map_some, if_true]
  rfl

/-- A slot that a step fills has gone to a new client. -/
theorem newClient_of_free {a : Action} {y : Client} (hx : c.hub.clients[slot]? = none)
    (hy : (c.step a).hub.clients[slot]? = some y) : c.stopped = false ∧ a = .newClient ∧
      slot = c.hub.clients.length ∧ y = { Client.new ⟨(c.allocated + 1).toUInt64⟩ c.config.network
        c.config.autoCatchUp c.config.clientBuffer.toNat c.hub.watermark with
          registered := true } := by
  have hnew : a = .newClient ∧ slot = c.hub.clients.length := by
    by_contra hnot
    rw [c.step_free slot (fun ha hslot => hnot ⟨ha, hslot⟩) hx] at hy
    cases hy
  obtain ⟨rfl, rfl⟩ := hnew
  cases hs : c.stopped with
  | true =>
    simp only [step, newClient, hs, if_true] at hy
    cases hx.symm.trans hy
  | false => exact ⟨rfl, rfl, rfl, Option.some.inj (hy.symm.trans (c.newClient_client hs))⟩

variable {slot c} in
/-- In a run every client that is in the fan-out has not been stopped. -/
theorem orderly_step {a : Action} (h : ∀ x, c.hub.clients[slot]? = some x → x.Orderly)
    {y : Client} (hy : (c.step a).hub.clients[slot]? = some y) : y.Orderly := by
  cases hx : c.hub.clients[slot]? with
  | none =>
    obtain ⟨_, _, _, rfl⟩ := newClient_of_free slot c hx hy
    exact fun _ => ⟨rfl, rfl⟩
  | some x =>
    have horderly : x.Orderly := h x hx
    cases clientStep_of_getElem? hx hy with
    | moves _ hm => exact hm.keep (fun hm hz => hz.move hm) horderly
    | watchScript s => exact horderly
    | watchOutpoints l => exact horderly
    | receiveTransaction t => exact horderly.congr (.receiveTransaction x t)
    | receiveBlock b => exact horderly.congr (.received x b)

theorem orderly_run {c : Connection} {actions : List Action}
    (h : ∀ x, c.hub.clients[slot]? = some x → x.Orderly) :
    ∀ y, (c.run actions).hub.clients[slot]? = some y → y.Orderly := by
  induction actions generalizing c with
  | nil => exact h
  | cons a rest ih => exact ih fun _ hz => orderly_step h hz

end Connection

end ChainFeed
