import ChainFeed.Proofs.Run.Life

/-!
# Gauges

The gauges show what the hub holds: the height of the watermark, the number of tracked transactions
and the number of registered clients. Whatever sets one of these sets its gauge too.
-/

namespace ChainFeed

open Client

/-- Only a stop and the removal from the fan-out take a client out of it. -/
theorem Action.registered_operate (w : Stamp) (a : Action) (x : Client) :
    (a.operate w x).registered = x.registered := by
  cases a with
  | startClient n =>
    simp only [operate, Client.started, Client.start]
    cases x.phase <;> rfl
  | catchUp n =>
    simp only [operate, askedUpTo]
    split
    · rfl
    · exact (Frame.startCatchUp x _ none).registered
  | receiveBlock n b => exact (SamePlace.received x b).registered
  | receiveTransaction n t => exact (SamePlace.receiveTransaction x t).registered
  | handle n => exact (SamePlace.handle x).registered
  | answerClient n source => exact (Frame.resumeCatchUp x _).registered
  | _ => rfl

namespace Hub

theorem registeredCount_map {h k : Hub} {f : Client → Client}
    (hf : ∀ x, (f x).registered = x.registered) (hk : k.clients = h.clients.map f) :
    k.registeredCount = h.registeredCount := by
  rw [registeredCount, hk, List.countP_map, registeredCount]
  exact congrArg (fun p => h.clients.countP p) (funext hf)

theorem registeredCount_modify {h k : Hub} {n : Nat} {f : Client → Client}
    (hf : ∀ x, h.clients[n]? = some x → (f x).registered = x.registered)
    (hk : k.clients = h.clients.modify n f) : k.registeredCount = h.registeredCount := by
  have hplaces : (h.clients.modify n f).map Client.registered =
      h.clients.map Client.registered := by
    apply List.ext_getElem?
    intro i
    rw [List.getElem?_map, List.getElem?_map, List.getElem?_modify]
    cases hi : h.clients[i]? with
    | none => rfl
    | some x =>
      by_cases hn : n = i
      · subst hn
        simp [hf x hi]
      · simp [hn]
  have hcount := congrArg (List.countP id) hplaces
  rw [List.countP_map, List.countP_map] at hcount
  rw [registeredCount, hk, registeredCount]
  exact hcount

/-- The gauges show what is there. -/
structure Gauged (h : Hub) : Prop where
  watermark : h.metrics.watermarkHeight = h.watermark.height.toNat
  tracker : h.metrics.mempoolTracked = h.tracker.size
  clients : h.metrics.clientsRegistered = h.registeredCount

namespace Gauged

variable {h k : Hub}

theorem new (best : Stamp) : (Hub.new best).Gauged := ⟨rfl, rfl, rfl⟩

/-- Nothing that a gauge shows has changed. -/
theorem of_eq (hh : h.Gauged) (hw : k.watermark = h.watermark) (ht : k.tracker = h.tracker)
    (hc : k.registeredCount = h.registeredCount)
    (hmw : k.metrics.watermarkHeight = h.metrics.watermarkHeight)
    (hmt : k.metrics.mempoolTracked = h.metrics.mempoolTracked)
    (hmc : k.metrics.clientsRegistered = h.metrics.clientsRegistered) : k.Gauged :=
  ⟨by rw [hmw, hw, hh.watermark], by rw [hmt, ht, hh.tracker], by rw [hmc, hc, hh.clients]⟩

theorem setWatermark (hh : h.Gauged) (s : Stamp) : (h.setWatermark s).Gauged :=
  ⟨rfl, hh.tracker, hh.clients⟩

theorem setTracker (hh : h.Gauged) (t : Distinct Txid) : (h.setTracker t).Gauged :=
  ⟨hh.watermark, rfl, hh.clients⟩

theorem setClients (hh : h.Gauged) (l : List Client) : (h.setClients l).Gauged :=
  ⟨hh.watermark, hh.tracker, rfl⟩

theorem advance (hh : h.Gauged) (s : Stamp) : (h.advance s).Gauged := by
  unfold Hub.advance
  split
  · exact hh.setWatermark s
  · exact hh

theorem recordFailure (hh : h.Gauged) (e : Error) : (h.recordFailure e).Gauged :=
  ⟨hh.watermark, hh.tracker, hh.clients⟩

theorem modifyClient (hh : h.Gauged) (n : Nat) {f : Client → Client}
    (hf : ∀ x, h.clients[n]? = some x → (f x).registered = x.registered) :
    (h.modifyClient n f).Gauged :=
  hh.of_eq rfl rfl (registeredCount_modify hf rfl) rfl rfl rfl

theorem addClient (hh : h.Gauged) {x : Client} (hx : x.registered = false) :
    (h.addClient x).Gauged := by
  refine hh.of_eq rfl rfl ?_ rfl rfl rfl
  simp [registeredCount, Hub.addClient, hx]

theorem register (hh : h.Gauged) (n : Nat) : (h.register n).Gauged := by
  unfold Hub.register
  split
  · exact hh
  · exact (hh.setClients _).setClients _

/-- A stop takes the client out at once, and its id out of the fan-out. -/
theorem stopClient (hh : h.Gauged) (n : Nat) : (h.stopClient n).Gauged := by
  unfold Hub.stopClient
  split
  · exact hh
  · exact ⟨hh.watermark, hh.tracker, rfl⟩

theorem fanOut (hh : h.Gauged) (wants : Client → Bool) (e : Event) :
    (h.fanOut wants e).1.Gauged :=
  hh.of_eq rfl rfl (registeredCount_map (fun x => (SamePlace.offer wants e x).registered) rfl)
    rfl rfl rfl

theorem dispatch (hh : h.Gauged) (e : Event) : (h.dispatch e).1.Gauged := by
  cases e with
  | blockConnected b =>
    have hfan := hh.fanOut (fun _ => true) (.blockConnected b)
    have hcounted (m : Nat) : Gauged { (h.fanOut (fun _ => true) (.blockConnected b)).1 with
        metrics := { (h.fanOut (fun _ => true) (.blockConnected b)).1.metrics with
          blockDeliveries := m } } := ⟨hfan.watermark, hfan.tracker, hfan.clients⟩
    exact (hcounted _).advance b.stamp
  | transactionAdded t =>
    have hfan := (hh.setTracker (h.tracker.insert t.txid)).fanOut
      (fun c => c.wantsTransaction t) (.transactionAdded t)
    exact ⟨hfan.watermark, hfan.tracker, hfan.clients⟩
  | transactionRemoved id =>
    exact (hh.setTracker (h.tracker.erase id)).fanOut (fun _ => true) (.transactionRemoved id)

theorem removals (hh : h.Gauged) (ids : List Txid) :
    (ids.foldl (fun h id => (h.dispatchRemoval id).1) h).Gauged := by
  induction ids generalizing h with
  | nil => exact hh
  | cons id rest ih => exact ih (hh.dispatch (.transactionRemoved id))

theorem fetchNext (hh : h.Gauged) (report : TxTick) (ids : List Txid) :
    (h.fetchNext report ids).1.Gauged := by
  cases ids with
  | nil => exact ⟨hh.watermark, hh.tracker, hh.clients⟩
  | cons id rest =>
    rw [Hub.fetchNext]
    split <;> exact ⟨hh.watermark, hh.tracker, hh.clients⟩

theorem resumeCatchUp (hh : h.Gauged) (n : Nat) (answer : Except Error Block) :
    (h.resumeCatchUp n answer).1.Gauged := by
  unfold Hub.resumeCatchUp
  cases hn : h.clients[n]? with
  | none => exact hh
  | some x =>
    have hmodified : (h.modifyClient n fun _ => (x.resumeCatchUp answer).1).Gauged := by
      refine hh.modifyClient n fun y hy => ?_
      obtain rfl : x = y := Option.some.inj (hn.symm.trans hy)
      exact (Frame.resumeCatchUp x answer).registered
    dsimp only
    split
    · exact hh
    · cases answer with
      | error e => exact hmodified.recordFailure e
      | ok block => exact hmodified

theorem bestArrived (hh : h.Gauged) (answer : Except Error Stamp) :
    (h.bestArrived answer).1.Gauged := by
  have hsame (p : BlockPoller) : Gauged { h with blockPoller := p } :=
    ⟨hh.watermark, hh.tracker, hh.clients⟩
  unfold Hub.bestArrived
  split
  · exact hsame .idle
  · split
    · split
      · exact hsame .idle
      · exact hsame _
    · exact hsame .idle
  · exact hh

theorem blockArrived (hh : h.Gauged) (answer : Except Error Block) :
    (h.blockArrived answer).1.Gauged := by
  unfold Hub.blockArrived
  split
  · exact ⟨hh.watermark, hh.tracker, hh.clients⟩
  · next next last done block _ =>
    have hcounted : h.countPolledBlock.Gauged := ⟨hh.watermark, hh.tracker, hh.clients⟩
    have hout := hcounted.dispatch (.blockConnected ⟨next, block⟩)
    dsimp only
    split <;> exact ⟨hout.watermark, hout.tracker, hout.clients⟩
  · exact hh

theorem listingArrived (hh : h.Gauged) (answer : Except Error (List Txid)) :
    (h.listingArrived answer).1.Gauged := by
  unfold Hub.listingArrived
  split
  · exact ⟨hh.watermark, hh.tracker, hh.clients⟩
  · next listing _ =>
    have hrest := hh.setTracker
      (h.tracker.eraseAll (Delta.between h.tracker listing).removed)
    dsimp only
    split
    · exact ⟨hrest.watermark, hrest.tracker, hrest.clients⟩
    · exact (hrest.removals _).fetchNext _ _
  · exact hh

theorem transactionArrived (hh : h.Gauged) (answer : Except Error Transaction) :
    (h.transactionArrived answer).1.Gauged := by
  unfold Hub.transactionArrived
  split
  · exact (hh.recordFailure _).fetchNext _ _
  · next t _ =>
    have hcounted : h.countPolledTransaction.Gauged := ⟨hh.watermark, hh.tracker, hh.clients⟩
    exact (hcounted.dispatch (.transactionAdded t)).fetchNext _ _
  · exact hh

end Gauged

end Hub

namespace Connection

variable {c : Connection}

theorem gauged_recordTick {α : Type} {r : Hub × Option (Except Error α)} (hr : r.1.Gauged) :
    (recordTick r).Gauged := by
  unfold recordTick
  split
  · exact hr.recordFailure _
  · exact hr

theorem gauged_closeClients (hc : c.hub.Gauged) (slots : List Nat) :
    (c.closeClients slots).hub.Gauged := by
  induction slots generalizing c with
  | nil => exact ⟨hc.watermark, hc.tracker, hc.clients⟩
  | cons n rest ih =>
    rw [closeClients]
    split
    · exact hc.stopClient n
    · exact ih (c := { c with hub := c.hub.stopClient n }) (hc.stopClient n)

theorem gauged_answerClient (hc : c.hub.Gauged) (n : Nat) (source : Source) :
    (c.answerClient n source).hub.Gauged := by
  unfold answerClient
  split
  · exact hc
  · exact hc.resumeCatchUp n _

theorem gauged_newClient (hc : c.hub.Gauged) {d : Connection} {id : ClientId}
    (h : c.newClient = .ok (d, id)) : d.hub.Gauged := by
  unfold newClient at h
  split at h
  · cases h
  · cases h
    exact (hc.addClient rfl).register _

theorem gauged_stop (hc : c.hub.Gauged) (order : List Nat) : (c.stop order).hub.Gauged := by
  unfold stop
  split
  · exact hc
  · exact gauged_closeClients (c := { c with hub := c.hub.unregisterAll, stopped := true })
      (hc.setClients _) _

theorem gauged_continueStop (hc : c.hub.Gauged) : c.continueStop.hub.Gauged := by
  unfold continueStop
  split
  · exact hc
  · split
    · exact hc
    · exact gauged_closeClients hc _

theorem gauged_step (hc : c.hub.Gauged) (a : Action) : (c.step a).hub.Gauged := by
  cases hsubject : a.subject with
  | some n =>
    by_cases hanswer : ∃ source, a = .answerClient n source
    · obtain ⟨source, rfl⟩ := hanswer
      exact gauged_answerClient hc n source
    · rw [step_of_subject hsubject fun source heq => hanswer ⟨source, heq⟩]
      exact hc.modifyClient n fun x _ => a.registered_operate c.hub.watermark x
  | none =>
    cases a with
    | newClient =>
      simp only [step]
      cases hn : c.newClient with
      | error e => exact hc
      | ok r => exact gauged_newClient hc hn
    | removeClient id => exact hc.setClients _
    | start =>
      simp only [step, start]
      split <;> exact hc
    | stop order => exact gauged_stop hc order
    | continueStop => exact gauged_continueStop hc
    | stopClient n => exact hc.stopClient n
    | tickBlocks =>
      simp only [step, onHub, Hub.beginBlockTick]
      split
      · split <;> exact ⟨hc.watermark, hc.tracker, hc.clients⟩
      · exact hc
    | answerBlockPoller source =>
      simp only [step, answerBlockPoller]
      split
      · exact hc
      · exact gauged_recordTick (hc.bestArrived _)
      · exact gauged_recordTick (hc.blockArrived _)
    | tickTransactions =>
      simp only [step, onHub, Hub.beginTxTick]
      split
      · split <;> exact ⟨hc.watermark, hc.tracker, hc.clients⟩
      · exact hc
    | answerTxPoller source =>
      simp only [step, answerTxPoller]
      split
      · exact hc
      · exact gauged_recordTick (hc.listingArrived _)
      · exact gauged_recordTick (hc.transactionArrived _)
    | push e => exact hc.dispatch e
    | _ => cases hsubject

theorem gauged_run (hc : c.hub.Gauged) (actions : List Action) : (c.run actions).hub.Gauged :=
  keep_run (P := fun d => d.hub.Gauged) (fun a hd => gauged_step hd a) actions hc

end Connection

end ChainFeed
