import ChainFeed.Connection.Run

/-!
# What the clients' side leaves alone

Most actions are about clients or the life of the connection. They do not reach the pollers, the
watermark or the tracked transactions, and a shutdown, once begun, lasts.
-/

namespace ChainFeed

namespace Hub

structure Frame (h k : Hub) : Prop where
  watermark : k.watermark = h.watermark
  tracker : k.tracker = h.tracker
  blockPoller : k.blockPoller = h.blockPoller
  txPoller : k.txPoller = h.txPoller
  shutdown : h.shutdown = true → k.shutdown = true

namespace Frame

variable {h k l : Hub}

theorem refl (h : Hub) : Frame h h := ⟨rfl, rfl, rfl, rfl, fun hs => hs⟩

theorem trans (hk : Frame h k) (hl : Frame k l) : Frame h l :=
  ⟨hl.watermark.trans hk.watermark, hl.tracker.trans hk.tracker,
    hl.blockPoller.trans hk.blockPoller, hl.txPoller.trans hk.txPoller,
    fun hs => hl.shutdown (hk.shutdown hs)⟩

end Frame

section
variable (h : Hub)

theorem frame_setClients (l : List Client) : h.Frame (h.setClients l) :=
  ⟨rfl, rfl, rfl, rfl, fun hs => hs⟩

theorem frame_modifyClient (n : Nat) (f : Client → Client) : h.Frame (h.modifyClient n f) :=
  ⟨rfl, rfl, rfl, rfl, fun hs => hs⟩

theorem frame_recordFailure (e : Error) : h.Frame (h.recordFailure e) :=
  ⟨rfl, rfl, rfl, rfl, fun hs => hs⟩

theorem frame_register (n : Nat) : h.Frame (h.register n) := by
  unfold register
  cases h.clients[n]? with
  | none => exact .refl h
  | some c => exact (h.frame_setClients _).trans (frame_setClients _ _)

theorem frame_stopClient (n : Nat) : h.Frame (h.stopClient n) := by
  unfold stopClient
  cases h.clients[n]? with
  | none => exact .refl h
  | some c => exact (h.frame_modifyClient n _).trans (frame_setClients _ _)

theorem frame_resumeCatchUp (n : Nat) (answer : Except Error Block) :
    h.Frame (h.resumeCatchUp n answer).1 := by
  unfold resumeCatchUp
  cases h.clients[n]? with
  | none => exact .refl h
  | some c =>
    dsimp only
    split
    · exact .refl h
    · have hm := h.frame_modifyClient n fun _ => (c.resumeCatchUp answer).1
      cases answer with
      | error e => exact hm.trans (frame_recordFailure _ e)
      | ok block => exact hm

theorem frame_startClient {n : Nat} {k : Hub} {b : Bool} (hk : h.startClient n = .ok (k, b)) :
    h.Frame k := by
  unfold startClient at hk
  cases hn : h.clients[n]? with
  | none =>
    obtain ⟨rfl, _⟩ : h = k ∧ false = b := by simpa [hn] using hk
    exact .refl h
  | some c =>
    rw [hn] at hk
    dsimp only at hk
    cases hc : c.start with
    | error e =>
      rw [hc] at hk
      cases hk
    | ok r =>
      rw [hc] at hk
      cases hk
      exact h.frame_modifyClient n _

end

end Hub

namespace Connection

open Hub

variable (c : Connection)

theorem frame_recordTick {α : Type} (r : Hub × Option (Except Error α)) :
    r.1.Frame (recordTick r) := by
  unfold recordTick
  split
  · exact frame_recordFailure _ _
  · exact .refl _

theorem frame_closeClients (slots : List Nat) : c.hub.Frame (c.closeClients slots).hub := by
  induction slots generalizing c with
  | nil => exact ⟨rfl, rfl, rfl, rfl, fun _ => rfl⟩
  | cons n rest ih =>
    have hn := c.hub.frame_stopClient n
    rw [closeClients]
    split
    · exact hn
    · exact hn.trans (ih { c with hub := c.hub.stopClient n })

theorem frame_newClient {d : Connection} {id : ClientId} (h : c.newClient = .ok (d, id)) :
    c.hub.Frame d.hub := by
  unfold newClient at h
  split at h
  · cases h
  · cases h
    have hadd (x : Client) : c.hub.Frame (c.hub.addClient x) :=
      ⟨rfl, rfl, rfl, rfl, fun hs => hs⟩
    exact (hadd _).trans (frame_register _ _)

theorem frame_stop (order : List Nat) : c.hub.Frame (c.stop order).hub := by
  unfold stop
  split
  · exact .refl _
  · exact (c.hub.frame_setClients _).trans
      (frame_closeClients { c with hub := c.hub.unregisterAll, stopped := true } _)

theorem frame_continueStop : c.hub.Frame c.continueStop.hub := by
  unfold continueStop
  cases c.awaited with
  | none => exact .refl _
  | some n =>
    dsimp only
    split
    · exact .refl _
    · exact c.frame_closeClients _

theorem frame_answerClient (n : Nat) (source : Source) :
    c.hub.Frame (c.answerClient n source).hub := by
  unfold answerClient
  cases c.hub.clients[n]? with
  | none => exact .refl _
  | some x => exact frame_resumeCatchUp _ n _

end Connection

/-- Whether an action concerns the pollers or the events that are handed out. -/
def Action.isFeed : Action → Bool
  | .tickBlocks | .answerBlockPoller _ | .tickTransactions | .answerTxPoller _ | .push _ => true
  | _ => false

theorem Connection.frame_step (c : Connection) {a : Action} (ha : a.isFeed = false) :
    c.hub.Frame (c.step a).hub := by
  cases a with
  | newClient =>
    simp only [step]
    cases hn : c.newClient with
    | error e => exact .refl _
    | ok r => exact c.frame_newClient hn
  | removeClient id => exact c.hub.frame_setClients _
  | start =>
    simp only [step, start]
    split <;> exact .refl _
  | stop order => exact c.frame_stop order
  | continueStop => exact c.frame_continueStop
  | startClient n =>
    simp only [step]
    cases hn : c.hub.startClient n with
    | error e => exact .refl _
    | ok r => exact c.hub.frame_startClient hn
  | stopClient n => exact c.hub.frame_stopClient n
  | answerClient n source => exact c.frame_answerClient n source
  | tickBlocks => cases ha
  | answerBlockPoller source => cases ha
  | tickTransactions => cases ha
  | answerTxPoller source => cases ha
  | push e => cases ha
  | _ => exact c.hub.frame_modifyClient _ _

end ChainFeed
