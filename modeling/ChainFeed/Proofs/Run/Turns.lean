import ChainFeed.Proofs.Run.Effect

/-!
# The fan-outs of a run

A step hands out its events in turn, and each of them meets the clients as the earlier ones have
left them. The report of a fan-out counts every client that it reaches once.
-/

namespace ChainFeed

open Client

namespace Client

/-- Whether a client is to hear of an event: of every block and every removal, and of an added
transaction if it wants them all or its watch-list matches. -/
def IsInterested (e : Event) (x : Client) : Prop :=
  match e with
  | .transactionAdded t =>
    x.wantsAll = true ∨ (∃ out ∈ t.outputs, out.script ∈ x.watch.scripts) ∨
      ∃ i ∈ t.inputs, i.spends ∈ x.watch.outpoints
  | _ => True

theorem concerns_iff {e : Event} {x : Client} : e.concerns x = true ↔ x.IsInterested e := by
  cases e with
  | blockConnected b => exact iff_of_true rfl trivial
  | transactionAdded t =>
    simp only [Event.concerns, IsInterested, wantsTransaction, WatchList.hits, Bool.or_eq_true,
      List.any_eq_true, decide_eq_true_eq]
    exact or_congr Iff.rfl or_comm
  | transactionRemoved id => exact iff_of_true rfl trivial

instance (e : Event) (x : Client) : Decidable (x.IsInterested e) :=
  decidable_of_iff _ concerns_iff

section
variable {wants : Client → Bool} {e : Event} {x : Client}

theorem takes_iff : x.takes wants e = true ↔
    x.isAddressed wants = true ∧ x.isStopped = false ∧ x.inbox.length < x.capacity := by
  by_cases ha : x.isAddressed wants = true
  · by_cases hs : x.isStopped = true
    · simp [takes, ha, reception, deliver, hs]
    · by_cases hroom : x.inbox.length < x.capacity
      · simp [takes, ha, reception, deliver, hs, hroom]
      · simp [takes, ha, reception, deliver, hs, hroom]
  · simp [takes, ha]

theorem misses_iff : x.misses wants e = true ↔
    x.isAddressed wants = true ∧ x.isStopped = false ∧ x.capacity ≤ x.inbox.length := by
  by_cases ha : x.isAddressed wants = true
  · by_cases hs : x.isStopped = true
    · simp [misses, ha, reception, deliver, hs]
    · by_cases hroom : x.inbox.length < x.capacity
      · simp [misses, ha, reception, deliver, hs, hroom]
      · simp [misses, ha, reception, deliver, hs, hroom]
        omega
  · simp [misses, ha]

theorem isGone_iff : x.isGone wants e = true ↔
    x.isAddressed wants = true ∧ x.isStopped = true := by
  by_cases ha : x.isAddressed wants = true
  · by_cases hs : x.isStopped = true
    · simp [isGone, ha, reception, deliver, hs]
    · by_cases hroom : x.inbox.length < x.capacity
      · simp [isGone, ha, reception, deliver, hs, hroom]
      · simp [isGone, ha, reception, deliver, hs, hroom]
  · simp [isGone, ha]

end

end Client

namespace Hub

variable (h : Hub)

theorem clients_dispatch (e : Event) :
    (h.dispatch e).1.clients = h.clients.map (Client.offer e.concerns e) := by
  cases e with
  | blockConnected b => exact clients_advance _ _
  | transactionAdded t => rfl
  | transactionRemoved id => rfl

theorem report_dispatch (e : Event) : (h.dispatch e).2 = h.reportOf e.concerns e := by
  cases e with
  | blockConnected b => rfl
  | transactionAdded t => rfl
  | transactionRemoved id => rfl

/-- Of the clients that a fan-out reaches, each is counted once. -/
theorem reportOf_total (wants : Client → Bool) (e : Event) :
    (h.reportOf wants e).delivered + (h.reportOf wants e).dropped + (h.reportOf wants e).skipped =
      h.clients.countP fun x => x.isAddressed wants := by
  simp only [reportOf]
  induction h.clients with
  | nil => rfl
  | cons x rest ih =>
    simp only [List.countP_cons]
    have hone : (if x.takes wants e then 1 else 0) + (if x.misses wants e then 1 else 0) +
        (if x.isGone wants e then 1 else 0) = if x.isAddressed wants then 1 else 0 := by
      by_cases ha : x.isAddressed wants = true
      · simp only [takes, misses, isGone, ha, Bool.true_and]
        cases x.reception e <;> rfl
      · simp [takes, misses, isGone, ha]
    omega

/-- Events that are handed out in turn, each with the hub that it meets. -/
def turns (h : Hub) : List Event → List (Hub × Event)
  | [] => []
  | e :: rest => (h, e) :: (h.dispatch e).1.turns rest

/-- What an offer keeps of the clients, every turn finds. -/
theorem keep_turns {P : Client → Prop} (hP : ∀ {x : Client} wants e, P x → P (x.offer wants e))
    {events : List Event} (hall : ∀ x ∈ h.clients, P x) {k : Hub} {e : Event}
    (hk : (k, e) ∈ h.turns events) : ∀ x ∈ k.clients, P x := by
  induction events generalizing h with
  | nil => cases hk
  | cons e' rest ih =>
    obtain heq | hrest := List.mem_cons.1 hk
    · cases heq
      exact hall
    · refine ih _ ?_ hrest
      rw [clients_dispatch]
      intro y hy
      obtain ⟨x, hx, rfl⟩ := List.mem_map.1 hy
      exact hP _ _ (hall x hx)

/-- The events that the client at `slot` takes when they are handed out in turn. -/
def taken (slot : Nat) (h : Hub) : List Event → List Event
  | [] => []
  | e :: rest =>
    (if h.clients[slot]?.any (Client.takes e.concerns e) then [e] else []) ++
      (h.dispatch e).1.taken slot rest

variable {h}

theorem taken_of_none {slot : Nat} (hx : h.clients[slot]? = none) (events : List Event) :
    h.taken slot events = [] := by
  induction events generalizing h with
  | nil => rfl
  | cons e rest ih =>
    have hnext : (h.dispatch e).1.clients[slot]? = none := by
      rw [clients_dispatch, List.getElem?_map, hx]
      rfl
    rw [taken, hx, ih hnext]
    rfl

/-- A client that is offered some events in turn has those that it took behind the others. -/
theorem offerAll_eq_taken {slot : Nat} {x : Client} (hx : h.clients[slot]? = some x)
    (events : List Event) :
    x.offerAll events = { x with inbox := x.inbox ++ h.taken slot events } := by
  induction events generalizing h x with
  | nil =>
    rw [taken, List.append_nil]
    rfl
  | cons e rest ih =>
    have hnext : (h.dispatch e).1.clients[slot]? = some (x.offer e.concerns e) := by
      rw [clients_dispatch, List.getElem?_map, hx]
      rfl
    -- Client and hub move on together: the client that is offered the event is the one there.
    rw [offerAll_cons, ih hnext, taken, hx, Option.any_some]
    obtain ⟨haddressed, hs, hroom, hoffer⟩ | ⟨hnot, hoffer⟩ := x.offer_cases e.concerns e
    · rw [if_pos (takes_iff.2 ⟨haddressed, hs, hroom⟩), hoffer]
      simp only [List.append_assoc]
    · rw [if_neg fun ht => hnot (takes_iff.1 ht), hoffer]
      rfl

end Hub

namespace Connection

/-- The fan-outs of a step: the events that it hands out, each with the hub that it meets. -/
def fanOutsAt (c : Connection) (a : Action) : List (Hub × Event) := c.hub.turns (c.dispatched a)

/-- The events of a step whose delivery to the client at `slot` succeeds. -/
def deliveredAt (slot : Nat) (c : Connection) (a : Action) : List Event :=
  c.hub.taken slot (c.dispatched a)

theorem deliveredAt_of_not_feed {slot : Nat} {c : Connection} {a : Action}
    (ha : a.isFeed = false) : c.deliveredAt slot a = [] := by
  rw [deliveredAt, dispatched_of_not_feed ha]
  rfl

theorem mem_trace {α : Type} {f : Connection → Action → List α} {c : Connection}
    {actions : List Action} {p : α} (hp : p ∈ c.trace f actions) :
    ∃ before a after, actions = before ++ a :: after ∧ p ∈ f (c.run before) a := by
  induction actions generalizing c with
  | nil => cases hp
  | cons a rest ih =>
    rw [trace_cons] at hp
    obtain hnow | hlater := List.mem_append.1 hp
    · exact ⟨[], a, rest, rfl, hnow⟩
    · obtain ⟨before, b, after, heq, hb⟩ := ih hlater
      exact ⟨a :: before, b, after, by rw [heq]; rfl, hb⟩

end Connection

end ChainFeed
