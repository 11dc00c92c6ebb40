import ChainFeed.Proofs.Client.Frame
import ChainFeed.Proofs.Client.Move

/-!
# What a client tells of the mempool

An added transaction that a client has accepted waits in its inbox until the handler takes it, and
is then told of or passed over. Nothing else makes the client tell of an unconfirmed transaction.
-/

namespace ChainFeed

def Event.added? : Event → Option Transaction
  | .transactionAdded t => some t
  | _ => none

namespace Client

/-- The unconfirmed transactions that the client has told of, and then those that it may still tell
of. -/
def additions (c : Client) : List Transaction :=
  c.unconfirmed ++ (c.last.toList ++ c.inbox).filterMap Event.added?

variable {given : Input} {c d : Client}

theorem Frame.additions (h : Frame c d) : d.additions = c.additions := by
  rw [Client.additions, h.unconfirmed, h.last, h.inbox, Client.additions]

theorem additions_deliver (c : Client) (e : Event) :
    ({ c with inbox := c.inbox ++ [e] }).additions = c.additions ++ e.added?.toList := by
  have he : [e].filterMap Event.added? = e.added?.toList := by
    cases e <;> rfl
  simp only [additions, List.filterMap_append, he, List.append_assoc]
  rfl

/-- To take fewer events tells of fewer. -/
theorem additions_sublist (hunconfirmed : d.unconfirmed = c.unconfirmed)
    (hevents : (d.last.toList ++ d.inbox).Sublist (c.last.toList ++ c.inbox)) :
    d.additions.Sublist c.additions := by
  rw [additions, hunconfirmed, additions]
  exact (hevents.filterMap _).append_left _

theorem additions_handleAdded (c : Client) (t : Transaction) :
    (c.handleAdded t).additions.Sublist
      (c.unconfirmed ++ t :: (c.last.toList ++ c.inbox).filterMap Event.added?) := by
  by_cases ht : t.txid ∈ c.mirror
  · rw [handleAdded_of_mem ht]
    exact (List.sublist_cons_self _ _).append_left _
  · rw [handleAdded_of_not_mem ht]
    have htold : (c.sent ++ [Notification.relevantTransaction t none]).filterMap
        Notification.unconfirmed? = c.unconfirmed ++ [t] := List.filterMap_append
    change ((c.sent ++ [Notification.relevantTransaction t none]).filterMap
      Notification.unconfirmed? ++ (c.last.toList ++ c.inbox).filterMap Event.added?).Sublist _
    rw [htold, List.append_assoc]
    exact .refl _

/-- The handler tells of the transaction that it takes at most. -/
theorem additions_handleEvent {e : Event} {last : Option Event} {inbox : List Event}
    (htake : c.last.toList ++ c.inbox = e :: (last.toList ++ inbox)) :
    (({ c with last, inbox }).handleEvent e).additions.Sublist c.additions := by
  have hrest : ({ c with last, inbox }).additions.Sublist c.additions :=
    additions_sublist rfl (by rw [htake]; exact List.sublist_cons_self _ _)
  cases e with
  | blockConnected b =>
    simp only [handleEvent]
    split
    · exact hrest
    · rw [(Frame.handleBlock _ b).additions]
      exact hrest
  | transactionRemoved id => exact hrest
  | transactionAdded t =>
    have hall : c.additions =
        c.unconfirmed ++ t :: (last.toList ++ inbox).filterMap Event.added? := by
      rw [additions, htake]
      rfl
    rw [hall]
    exact additions_handleAdded { c with last, inbox } t

theorem additions_handle (c : Client) : c.handle.additions.Sublist c.additions := by
  obtain h | ⟨b, _, _, h⟩ | ⟨e, _, _, hlast, h⟩ | ⟨e, rest, _, _, hlast, _, hin, h⟩ :=
    c.handle_cases
  · rw [h]
  · rw [h, (Frame.handleBlock _ b).additions]
    exact .refl _
  · rw [h]
    exact additions_handleEvent (by rw [hlast]; rfl)
  · rw [h]
    exact additions_handleEvent (by rw [hlast, hin]; rfl)

/-- No unconfirmed transaction is told of but those that were waiting, each once and in order. -/
theorem Move.additions (hm : Move given c d) (hevent : ∀ t, ¬ given.event (.transactionAdded t)) :
    d.additions.Sublist c.additions := by
  cases hm with
  | start => exact additions_sublist (unconfirmed_notify _ rfl) (.refl _)
  | stop => exact additions_sublist rfl c.stop_sublist
  | leave => exact additions_sublist rfl (List.sublist_append_right _ _)
  | deliver e hgiven =>
    cases e with
    | transactionAdded t => exact absurd hgiven (hevent t)
    | blockConnected b =>
      rw [c.additions_deliver]
      exact (List.append_nil c.additions).symm ▸ .refl _
    | transactionRemoved id =>
      rw [c.additions_deliver]
      exact (List.append_nil c.additions).symm ▸ .refl _
  | handle => exact c.additions_handle
  | catchUp target =>
    rw [(Frame.startCatchUp c target none).additions]
  | resume u answer =>
    rw [(Frame.resumeCatchUp c answer).additions]
  | _ => exact .refl _

end Client

end ChainFeed
