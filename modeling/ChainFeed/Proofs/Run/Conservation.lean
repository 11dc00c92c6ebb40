import ChainFeed.Proofs.Run.Life
import ChainFeed.Proofs.Run.Turns

/-!
# No event is lost silently

What has been delivered to a client is what its handler has taken and what is still in its inbox, in
that order. An event that is not delivered is counted, and it leaves the client as it was.
-/

namespace ChainFeed

open Client Hub

namespace Connection

/-- The event that the handler of the client at `slot` takes in a step. -/
def handledAt (slot : Nat) (c : Connection) : Action → List Event
  | .handle n => if n = slot then (c.hub.clients[slot]?.bind Client.next?).toList else []
  | _ => []

theorem handledAt_of_not_handle {slot : Nat} {c : Connection} {a : Action}
    (ha : a ≠ .handle slot) : c.handledAt slot a = [] := by
  cases a with
  | handle n =>
    refine if_neg ?_
    rintro rfl
    exact ha rfl
  | _ => rfl

section
variable {slot : Nat} {c : Connection} {a : Action} {x y : Client}

/-- A stopped client stays stopped. -/
theorem isStopped_step (hx : c.hub.clients[slot]? = some x)
    (hy : (c.step a).hub.clients[slot]? = some y) (hs : x.isStopped = true) :
    y.isStopped = true := by
  cases clientStep_of_getElem? hx hy with
  | moves _ hm => exact hm.keep (P := fun z => z.isStopped = true) (fun hm hz => hm.isStopped hz) hs
  | watchScript s => exact hs
  | watchOutpoints l => exact hs
  | receiveTransaction t => exact (SamePlace.receiveTransaction x t).isStopped.trans hs
  | receiveBlock b => exact (SamePlace.received x b).isStopped.trans hs

theorem running_of_step (hx : c.hub.clients[slot]? = some x)
    (hy : (c.step a).hub.clients[slot]? = some y) (hs : y.isStopped = false) :
    x.isStopped = false := by
  cases hstopped : x.isStopped with
  | false => rfl
  | true => exact absurd (isStopped_step hx hy hstopped) (by simp [hs])

end

/-- Every inbox is as large as the configuration says. -/
def Fitted (c : Connection) : Prop :=
  ∀ (slot : Nat) (x : Client), c.hub.clients[slot]? = some x → Sized c.config.clientBuffer.toNat x

namespace Fitted

variable {c : Connection}

theorem step (h : c.Fitted) (a : Action) : (c.step a).Fitted := by
  intro slot y hy
  rw [c.config_step a]
  cases hx : c.hub.clients[slot]? with
  | none =>
    obtain ⟨_, _, _, rfl⟩ := newClient_of_free slot c hx hy
    exact .new _ _ _ _ _
  | some x =>
    have hsized := h slot x hx
    cases clientStep_of_getElem? hx hy with
    | moves _ hm => exact hm.keep (fun hm hz => hz.move hm) hsized
    | watchScript s =>
      exact hsized.congr ⟨rfl, rfl, rfl, fun h => h⟩ rfl List.suffix_rfl
    | watchOutpoints l =>
      exact hsized.congr ⟨rfl, rfl, rfl, fun h => h⟩ rfl List.suffix_rfl
    | receiveTransaction t =>
      exact hsized.congr (.receiveTransaction x t) (x.settings_receiveTransaction t)
        (by simp only [x.receiveTransaction_inbox t, List.suffix_rfl])
    | receiveBlock b =>
      exact hsized.congr (.received x b) (x.settings_received b)
        (by simp only [x.received_inbox b, List.suffix_rfl])

theorem run (h : c.Fitted) (actions : List Action) : (c.run actions).Fitted :=
  keep_run (fun a hd => hd.step a) actions h

theorem opened (config : BackendConfig) (best : Stamp) : (opened config best).Fitted :=
  fun _ _ hnone => nomatch hnone

/-- A fan-out finds every inbox as large as the configuration says. -/
theorem turns (h : c.Fitted) {a : Action} {k : Hub} {e : Event} (hk : (k, e) ∈ c.fanOutsAt a) :
    ∀ x ∈ k.clients, Sized c.config.clientBuffer.toNat x := by
  refine c.hub.keep_turns (P := Sized c.config.clientBuffer.toNat) ?_ ?_ hk
  · intro x wants e hx
    have hm : Moves ⟨fun _ => True, fun _ => True, fun _ _ => True⟩ x (x.offer wants e) :=
      x.moves_offer wants trivial
    exact hm.keep (fun hm hz => hz.move hm) hx
  · intro x hx
    obtain ⟨slot, hslot⟩ := List.getElem?_of_mem hx
    exact h slot x hslot

end Fitted

/-- What has been delivered to the client at `slot` is what its handler has taken and what waits in
its inbox, unless it has been stopped. -/
def Conserved (slot : Nat) (c : Connection) (delivered handled : List Event) : Prop :=
  match c.hub.clients[slot]? with
  | none => delivered = [] ∧ handled = []
  | some x => x.isStopped = false → delivered = handled ++ x.inbox

section
variable {slot : Nat} {c : Connection} {delivered handled : List Event}

theorem Conserved.of_some {x : Client} (h : c.Conserved slot delivered handled)
    (hx : c.hub.clients[slot]? = some x) (hs : x.isStopped = false) :
    delivered = handled ++ x.inbox := by
  rw [Conserved, hx] at h
  exact h hs

/-- Deliveries go to the end of the inbox, and the handler takes from its front. -/
theorem inbox_step (hfitted : c.Fitted) {a : Action} {x y : Client}
    (hx : c.hub.clients[slot]? = some x) (hy : (c.step a).hub.clients[slot]? = some y)
    (hs : y.isStopped = false) :
    x.inbox ++ c.deliveredAt slot a = c.handledAt slot a ++ y.inbox := by
  cases effect_of_getElem? hx hy with
  | fed ha heq =>
    have hhandled : c.handledAt slot a = [] := handledAt_of_not_handle fun h => by
      rw [h] at ha
      cases ha
    rw [heq, offerAll_eq_taken hx, hhandled]
    rfl
  | dismissed ha hsubject heq =>
    have hhandled : c.handledAt slot a = [] :=
      handledAt_of_not_handle fun h => hsubject (by rw [h]; rfl)
    rw [deliveredAt_of_not_feed ha, hhandled, heq.inbox hs, List.append_nil, List.nil_append]
  | operated ha hsubject heq =>
    rw [deliveredAt_of_not_feed ha, List.append_nil, heq]
    -- Only the handler takes something out.
    by_cases hhandle : ∃ n, a = .handle n
    · obtain ⟨n, rfl⟩ := hhandle
      obtain rfl : n = slot := Option.some.inj hsubject
      have hlast : x.last = none := (hfitted n x hx).running (running_of_step hx hy hs)
      simp only [handledAt, hx, if_true]
      exact x.inbox_eq_next?_append hlast
    · have hnot (n : Nat) : a ≠ .handle n := fun h => hhandle ⟨n, h⟩
      rw [handledAt_of_not_handle (hnot slot), Action.inbox_operate _ hnot]
      rfl

theorem handledAt_of_none {a : Action} (hx : c.hub.clients[slot]? = none) :
    c.handledAt slot a = [] := by
  cases a with
  | handle n => simp [handledAt, hx]
  | _ => rfl

theorem Conserved.step (h : c.Conserved slot delivered handled) (hfitted : c.Fitted) (a : Action) :
    (c.step a).Conserved slot (delivered ++ c.deliveredAt slot a)
      (handled ++ c.handledAt slot a) := by
  cases hx : c.hub.clients[slot]? with
  | none =>
    rw [Conserved, hx] at h
    obtain ⟨rfl, rfl⟩ := h
    rw [deliveredAt, taken_of_none hx, handledAt_of_none hx, Conserved]
    cases hy : (c.step a).hub.clients[slot]? with
    | none => exact ⟨rfl, rfl⟩
    | some y =>
      obtain ⟨_, _, _, rfl⟩ := newClient_of_free slot c hx hy
      exact fun _ => rfl
  | some x =>
    obtain ⟨y, hy, _⟩ := c.step_client slot a hx
    rw [Conserved, hy]
    intro hs
    rw [h.of_some hx (running_of_step hx hy hs), List.append_assoc, inbox_step hfitted hx hy hs,
      List.append_assoc]

theorem Conserved.run (h : c.Conserved slot delivered handled) (hfitted : c.Fitted)
    (actions : List Action) :
    (c.run actions).Conserved slot (delivered ++ c.trace (deliveredAt slot) actions)
      (handled ++ c.trace (handledAt slot) actions) := by
  induction actions generalizing c delivered handled with
  | nil => simpa using h
  | cons a rest ih =>
    rw [trace_cons, trace_cons, ← List.append_assoc, ← List.append_assoc]
    exact ih (h.step hfitted a) (hfitted.step a)

end

end Connection

namespace Client.Sized

variable {size : Nat} {x : Client}

theorem not_stopped (h : Sized size x) (hin : x.registered = true) : x.isStopped = false := by
  cases hs : x.isStopped with
  | false => rfl
  | true => exact absurd (h.withdrawn hs) (by simp [hin])

theorem hasRoom_iff (h : Sized size x) :
    x.inbox.length < x.capacity ↔ x.inbox.length ≠ max 1 size := by
  have hroom := h.room
  rw [h.capacity] at hroom ⊢
  omega

/-- An event is dropped exactly when the inbox is full. -/
theorem lags_iff (h : Sized size x) (hs : x.isStopped = false) (e : Event) :
    x.deliver e = .error (.clientLagging x.id) ↔ x.inbox.length = max 1 size := by
  by_cases hroom : x.inbox.length < x.capacity
  · have hlength := h.hasRoom_iff.1 hroom
    simp [deliver, hs, hroom, hlength]
  · have hlength : x.inbox.length = max 1 size := by
      by_contra hne
      exact hroom (h.hasRoom_iff.2 hne)
    have hdeliver : x.deliver e = .error (.clientLagging x.id) := by
      simp only [deliver, hs, if_neg hroom, Bool.false_eq_true, if_false]
    exact iff_of_true hdeliver hlength

theorem offer_eq (h : Sized size x) (e : Event) : x.offer e.concerns e =
    if x.registered ∧ x.IsInterested e ∧ x.inbox.length ≠ max 1 size
    then { x with inbox := x.inbox ++ [e] } else x := by
  obtain ⟨haddressed, _, hroom, hoffer⟩ | ⟨hnot, hoffer⟩ := x.offer_cases e.concerns e
  · obtain ⟨hin, hwants⟩ : x.registered = true ∧ e.concerns x = true := by
      simpa [isAddressed] using haddressed
    rw [hoffer, if_pos ⟨hin, concerns_iff.1 hwants, h.hasRoom_iff.1 hroom⟩]
  · rw [hoffer, if_neg]
    rintro ⟨hin, hwants, hlength⟩
    apply hnot
    refine ⟨?_, h.not_stopped hin, h.hasRoom_iff.2 hlength⟩
    rw [isAddressed, hin, concerns_iff.2 hwants]
    rfl

theorem misses_iff_full (h : Sized size x) (e : Event) : x.misses e.concerns e = true ↔
    x.registered = true ∧ x.IsInterested e ∧ x.inbox.length = max 1 size := by
  rw [misses_iff, isAddressed, Bool.and_eq_true, concerns_iff, and_assoc]
  refine and_congr_right fun hin => and_congr_right fun _ => ?_
  have hfull := h.hasRoom_iff
  have hs := h.not_stopped hin
  rw [and_iff_right hs]
  omega

end Client.Sized

namespace Connection

/-- What has been delivered to a client is what its handler has taken followed by what waits in its
inbox, until it is stopped, and no inbox holds more than it was made for. A fan-out drops an event
exactly for the clients whose inbox is full, which stay as they are, and it counts every client that
is registered and interested once. -/
theorem nothing_is_lost_silently (config : BackendConfig) (best : Stamp) (actions : List Action) :
    let c := opened config best
    let size := max 1 config.clientBuffer.toNat
    (∀ (slot : Nat) (x : Client), (c.run actions).hub.clients[slot]? = some x →
      x.inbox.length ≤ size ∧
      (x.isStopped = false → c.trace (deliveredAt slot) actions =
        c.trace (handledAt slot) actions ++ x.inbox)) ∧
    ∀ h e, (h, e) ∈ c.trace fanOutsAt actions →
      (∀ (slot : Nat) (x : Client), h.clients[slot]? = some x →
        (x.isStopped = false →
          (x.deliver e = .error (.clientLagging x.id) ↔ x.inbox.length = size)) ∧
        (h.dispatch e).1.clients[slot]? = some
          (if x.registered ∧ x.IsInterested e ∧ x.inbox.length ≠ size
            then { x with inbox := x.inbox ++ [e] } else x)) ∧
      let report := (h.dispatch e).2
      report.delivered + report.dropped + report.skipped =
          h.clients.countP (fun x => x.registered ∧ x.IsInterested e) ∧
        report.dropped =
          h.clients.countP (fun x => x.registered ∧ x.IsInterested e ∧ x.inbox.length = size) := by
  intro c size
  have hopened : c.Fitted := .opened config best
  refine ⟨fun slot x hx => ⟨?_, fun hs => ?_⟩, fun h e hturn => ?_⟩
  · have hsized : Sized config.clientBuffer.toNat x := by
      have hfitted := hopened.run actions slot x hx
      rwa [config_run] at hfitted
    exact Nat.le_trans hsized.room (Nat.le_of_eq hsized.capacity)
  · have hstart : c.Conserved slot [] [] := ⟨rfl, rfl⟩
    exact (hstart.run hopened actions).of_some hx hs
  · obtain ⟨before, a, _, _, hat⟩ := mem_trace hturn
    have hall : ∀ x ∈ h.clients, Sized config.clientBuffer.toNat x := by
      have hfound := (hopened.run before).turns hat
      rwa [config_run] at hfound
    refine ⟨fun slot x hx => ?_, ?_, ?_⟩
    · have hsized := hall x (List.mem_of_getElem? hx)
      refine ⟨fun hs => hsized.lags_iff hs e, ?_⟩
      rw [h.clients_dispatch, List.getElem?_map, hx, Option.map_some, hsized.offer_eq]
    · rw [h.report_dispatch, h.reportOf_total]
      refine List.countP_congr fun x _ => ?_
      simp [isAddressed, concerns_iff]
    · rw [h.report_dispatch]
      refine List.countP_congr fun x hx => ?_
      rw [(hall x hx).misses_iff_full, decide_eq_true_eq]

def narrowOpened : Connection :=
  opened { BackendConfig.standard with clientBuffer := 1 } ⟨5, .zero⟩

/-- A client gets three blocks, the second of them while its inbox is full. -/
def crowded : List Action :=
  [.newClient, .startClient 0, .push (.blockConnected ⟨6, .blank⟩),
    .push (.blockConnected ⟨7, .blank⟩), .handle 0, .push (.blockConnected ⟨8, .blank⟩)]

theorem second_block_is_dropped_and_counted :
    (∃ x : Client, (narrowOpened.run crowded).hub.clients[0]? = some x ∧
      x.inbox = [.blockConnected ⟨8, .blank⟩] ∧
      narrowOpened.trace (deliveredAt 0) crowded = .blockConnected ⟨6, .blank⟩ :: x.inbox) ∧
    ∃ h y, (h, .blockConnected ⟨7, .blank⟩) ∈ narrowOpened.trace fanOutsAt crowded ∧
      h.clients[0]? = some y ∧ (h.dispatch (.blockConnected ⟨7, .blank⟩)).2 = ⟨0, 1, 0⟩ ∧
      (h.dispatch (.blockConnected ⟨7, .blank⟩)).1.clients[0]? = some y := by
  obtain ⟨hclients, hturns⟩ := nothing_is_lost_silently
    { BackendConfig.standard with clientBuffer := 1 } ⟨5, .zero⟩ crowded
  constructor
  · have hend : ∃ x : Client, (narrowOpened.run crowded).hub.clients[0]? = some x ∧
        x.isStopped = false ∧ x.inbox = [.blockConnected ⟨8, .blank⟩] := ⟨_, rfl, rfl, rfl⟩
    have hhandled : narrowOpened.trace (handledAt 0) crowded = [.blockConnected ⟨6, .blank⟩] := rfl
    obtain ⟨x, hx, hs, hin⟩ := hend
    have hdelivered := (hclients 0 x hx).2 hs
    exact ⟨x, hx, hin, hdelivered.trans (congrArg (· ++ x.inbox) hhandled)⟩
  · have hfull : ∃ (h : Hub) (y : Client),
        (h, Event.blockConnected ⟨7, .blank⟩) ∈ narrowOpened.trace fanOutsAt crowded ∧
        h.clients[0]? = some y ∧ y.inbox.length = 1 ∧
        (h.dispatch (.blockConnected ⟨7, .blank⟩)).2 = ⟨0, 1, 0⟩ :=
      ⟨_, _, List.mem_cons_of_mem _ List.mem_cons_self, rfl, rfl, rfl⟩
    obtain ⟨h, y, hturn, hy, hlength, hreport⟩ := hfull
    have hafter := ((hturns h _ hturn).1 0 y hy).2
    refine ⟨h, y, hturn, hy, hreport, hafter.trans ?_⟩
    rw [if_neg fun hroom => hroom.2.2 hlength]

end Connection

end ChainFeed
