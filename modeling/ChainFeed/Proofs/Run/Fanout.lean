import ChainFeed.Proofs.Client.Hand
import ChainFeed.Proofs.Run.BlockStep

/-!
# What a step puts into the hands of a client

A step that hands out events offers them to every client one after the other and does nothing else
to the clients. So what is in the hands of a client is always a part of what was there before and of
what has been handed out since, in that order.
-/

namespace ChainFeed

/-- Whom an event concerns. -/
def Event.concerns : Event → Client → Bool
  | .transactionAdded t => fun x => x.wantsTransaction t
  | _ => fun _ => true

namespace Client

/-- The client that is offered some events in turn. -/
def offerAll (x : Client) (l : List Event) : Client := l.foldl (fun x e => x.offer e.concerns e) x

theorem offerAll_cons (x : Client) (e : Event) (rest : List Event) :
    x.offerAll (e :: rest) = (x.offer e.concerns e).offerAll rest := rfl

theorem offerAll_eq (x : Client) (l : List Event) :
    ∃ accepted : List Event, accepted.Sublist l ∧
      x.offerAll l = { x with inbox := x.inbox ++ accepted } := by
  induction l generalizing x with
  | nil => exact ⟨[], .refl _, by rw [List.append_nil]; rfl⟩
  | cons e rest ih =>
    rw [offerAll_cons]
    rcases x.offer_cases e.concerns e with ⟨_, _, _, h⟩ | ⟨_, h⟩
    · obtain ⟨accepted, hsub, heq⟩ := ih (x.offer e.concerns e)
      refine ⟨e :: accepted, hsub.cons_cons e, ?_⟩
      rw [heq, h]
      simp only [List.append_assoc, List.singleton_append]
    · obtain ⟨accepted, hsub, heq⟩ := ih (x.offer e.concerns e)
      refine ⟨accepted, hsub.cons e, ?_⟩
      rw [heq, h]

theorem hand_offerAll (x : Client) (l : List Event) :
    ∃ accepted : List Event, accepted.Sublist l ∧ (x.offerAll l).hand = x.hand ++ accepted := by
  obtain ⟨accepted, hsub, heq⟩ := x.offerAll_eq l
  refine ⟨accepted, hsub, ?_⟩
  rw [heq]
  simp only [hand, List.append_assoc]

end Client

namespace Hub

open Client

theorem clients_removals (h : Hub) (ids : List Txid) :
    (ids.foldl (fun h id => (h.dispatchRemoval id).1) h).clients =
      h.clients.map fun x => x.offerAll (ids.map .transactionRemoved) := by
  induction ids generalizing h with
  | nil => exact (List.map_id' h.clients).symm
  | cons id rest ih =>
    have hfirst : (h.dispatchRemoval id).1.clients =
        h.clients.map (Client.offer (fun _ => true) (.transactionRemoved id)) := rfl
    rw [List.foldl_cons, ih, hfirst, List.map_map]
    rfl

end Hub

namespace Connection

open Client Hub

section
variable (c : Connection)

theorem clients_of_listing (source : Source) (hask : c.hub.txPoller = .askingListing)
    (hsome : c.dispatched (.answerTxPoller source) ≠ []) :
    (c.step (.answerTxPoller source)).hub.clients =
      c.hub.clients.map fun x => x.offerAll (c.dispatched (.answerTxPoller source)) := by
  cases hl : source.mempool with
  | error e =>
    simp only [dispatched, hask, hl] at hsome
    exact absurd rfl hsome
  | ok listing =>
    have hevents : c.dispatched (.answerTxPoller source) =
        (Delta.between c.hub.tracker listing).removed.map .transactionRemoved := by
      simp only [dispatched, hask, hl]
    have hgone : (Delta.between c.hub.tracker listing).removed ≠ [] := by
      intro hnil
      apply hsome
      rw [hevents, hnil]
      rfl
    rw [hevents]
    simp only [step, answerTxPoller, hask, hl, onHub, clients_recordTick, listingArrived]
    split
    · next hempty =>
      apply absurd _ hgone
      have hboth : (Delta.between c.hub.tracker listing).isEmpty = true := hempty
      simp only [Delta.isEmpty, Bool.and_eq_true, List.isEmpty_iff] at hboth
      exact hboth.2
    · rw [clients_fetchNext, clients_removals]
      rfl

/-- A step that hands out events offers them to the clients in turn. -/
theorem clients_of_dispatched {a : Action} (hsome : c.dispatched a ≠ []) :
    (c.step a).hub.clients = c.hub.clients.map fun x => x.offerAll (c.dispatched a) := by
  have hblock (b : PlacedBlock) (hb : c.dispatched a = [.blockConnected b]) :
      (c.step a).hub.clients = c.hub.clients.map fun x => x.offerAll (c.dispatched a) := by
    rw [hb]
    apply c.clients_of_mem_blocksAt
    rw [mem_blocksAt, hb]
    exact List.mem_singleton_self _
  have hadded (t : Transaction) (ht : c.dispatched a = [.transactionAdded t]) :
      (c.step a).hub.clients = c.hub.clients.map fun x => x.offerAll (c.dispatched a) := by
    rw [ht]
    apply c.clients_of_added
    rw [ht]
    exact List.mem_singleton_self _
  cases a with
  | push e =>
    cases e with
    | blockConnected b => exact hblock b rfl
    | transactionAdded t => exact hadded t rfl
    | transactionRemoved id => rfl
  | answerBlockPoller source =>
    cases hp : c.hub.blockPoller with
    | walking next last done =>
      cases hs : source.block next with
      | error e => simp [dispatched, hp, hs] at hsome
      | ok block => exact hblock ⟨next, block⟩ (by simp only [dispatched, hp, hs])
    | _ => simp [dispatched, hp] at hsome
  | answerTxPoller source =>
    cases hp : c.hub.txPoller with
    | idle => simp [dispatched, hp] at hsome
    | askingListing => exact c.clients_of_listing source hp hsome
    | fetching id rest report =>
      cases hs : source.transaction id with
      | error e => simp [dispatched, hp, hs] at hsome
      | ok t => exact hadded t (by simp only [dispatched, hp, hs])
  | _ => exact absurd rfl hsome

end

section
variable {c : Connection} {slot : Nat} {a : Action} {x y : Client}

/-- A client is offered what a step hands out, or the step hands out nothing. -/
theorem offered_or_clientStep (hx : c.hub.clients[slot]? = some x)
    (hy : (c.step a).hub.clients[slot]? = some y) :
    y = x.offerAll (c.dispatched a) ∨ c.dispatched a = [] ∧ c.ClientStep slot x a y := by
  by_cases hnone : c.dispatched a = []
  · exact .inr ⟨hnone, clientStep_of_getElem? hx hy⟩
  · left
    rw [c.clients_of_dispatched hnone, List.getElem?_map, hx] at hy
    exact (Option.some.inj hy).symm

theorem not_given_of_dispatched (hnone : c.dispatched a = []) (slot : Nat) (e : Event) :
    ¬ (c.inputs slot a).event e := by
  intro he
  have hmem : e ∈ c.dispatched a := he
  rw [hnone] at hmem
  cases hmem

theorem hand_step (hx : c.hub.clients[slot]? = some x)
    (hy : (c.step a).hub.clients[slot]? = some y) : y.hand.Sublist (x.hand ++ c.dispatched a) := by
  rcases offered_or_clientStep hx hy with h | ⟨hnone, hstep⟩
  · obtain ⟨accepted, hsub, hhand⟩ := x.hand_offerAll (c.dispatched a)
    rw [h, hhand]
    exact hsub.append_left x.hand
  · rw [hnone, List.append_nil]
    cases hstep with
    | moves _ hm => exact hm.hand_sublist (not_given_of_dispatched hnone slot)
    | watchScript s => exact .refl _
    | watchOutpoints l => exact .refl _
    | receiveTransaction t => rw [x.hand_receiveTransaction t]
    | receiveBlock b => rw [x.hand_received b]

end

/-- Events are in the hands of a client in the order in which they have been handed out. -/
theorem hand_run {c : Connection} {slot : Nat} {earlier : List Event} {actions : List Action}
    {y : Client} (hearlier : ∀ x, c.hub.clients[slot]? = some x → x.hand.Sublist earlier)
    (hy : (c.run actions).hub.clients[slot]? = some y) :
    y.hand.Sublist (earlier ++ c.trace dispatched actions) := by
  induction actions generalizing c earlier with
  | nil =>
    rw [trace_nil, List.append_nil]
    exact hearlier y hy
  | cons a rest ih =>
    rw [trace_cons, ← List.append_assoc]
    apply ih _ hy
    intro z hz
    cases hx : c.hub.clients[slot]? with
    | some x => exact (hand_step hx hz).trans ((hearlier x hx).append_right _)
    | none =>
      -- A client that has just been made has nothing in its hands.
      obtain ⟨_, _, _, rfl⟩ := newClient_of_free slot c hx hz
      exact List.nil_sublist _

end Connection

end ChainFeed
