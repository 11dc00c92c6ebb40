import ChainFeed.Proofs.Client.Move

/-!
# The place of a client in the fan-out

A client that has been taken out of the fan-out stays out, and one that is in has not been stopped.
-/

namespace ChainFeed.Client

variable {given : Input}

/-- The second client has the place in the fan-out and the settings of the first, and its handler is
not told to end if the first one's was not. -/
structure SamePlace (c d : Client) : Prop where
  registered : d.registered = c.registered
  isStopped : d.isStopped = c.isStopped
  autoCatchUp : d.autoCatchUp = c.autoCatchUp
  last : c.last = none → d.last = none

theorem Frame.samePlace {c d : Client} (h : Frame c d) : SamePlace c d :=
  ⟨h.registered, by rw [isStopped, h.phase, isStopped], h.autoCatchUp,
    fun hlast => h.last.trans hlast⟩

namespace SamePlace

variable {c d e : Client}

theorem refl (c : Client) : SamePlace c c := ⟨rfl, rfl, rfl, fun h => h⟩

theorem trans (hd : SamePlace c d) (he : SamePlace d e) : SamePlace c e :=
  ⟨he.registered.trans hd.registered, he.isStopped.trans hd.isStopped,
    he.autoCatchUp.trans hd.autoCatchUp, fun h => he.last (hd.last h)⟩

theorem handleEvent (c : Client) (e : Event) : SamePlace c (c.handleEvent e) := by
  cases e with
  | blockConnected b =>
    simp only [Client.handleEvent]
    split
    · exact ⟨rfl, rfl, rfl, fun h => h⟩
    · exact (Frame.handleBlock c b).samePlace
  | transactionAdded t =>
    by_cases ht : t.txid ∈ c.mirror
    · rw [Client.handleEvent, handleAdded_of_mem ht]
      exact refl c
    · rw [Client.handleEvent, handleAdded_of_not_mem ht]
      exact ⟨rfl, rfl, rfl, fun h => h⟩
  | transactionRemoved id => exact ⟨rfl, rfl, rfl, fun h => h⟩

theorem handle (c : Client) : SamePlace c c.handle := by
  obtain h | ⟨b, _, _, h⟩ | ⟨e, _, _, hlast, h⟩ | ⟨e, rest, _, _, _, _, _, h⟩ := c.handle_cases
  · rw [h]
    exact refl c
  · rw [h]
    have hblock := Frame.handleBlock { c with held := none } b
    exact trans (d := { c with held := none }) ⟨rfl, rfl, rfl, fun h => h⟩ hblock.samePlace
  · rw [h]
    exact trans (d := c.leave) ⟨rfl, rfl, rfl, fun _ => rfl⟩ (handleEvent _ e)
  · rw [h]
    exact trans (d := { c with inbox := rest }) ⟨rfl, rfl, rfl, fun h => h⟩ (handleEvent _ e)

theorem offer (wants : Client → Bool) (e : Event) (c : Client) : SamePlace c (c.offer wants e) := by
  obtain ⟨_, _, _, h⟩ | ⟨_, h⟩ := c.offer_cases wants e
  · rw [h]
    exact ⟨rfl, rfl, rfl, fun h => h⟩
  · rw [h]
    exact refl c

theorem receiveTransaction (c : Client) (t : Transaction) :
    SamePlace c (c.receiveTransaction t).1 := by
  by_cases ht : t.txid ∈ c.mirror
  · rw [receiveTransaction_of_mem ht]
    exact refl c
  · rw [receiveTransaction_of_not_mem ht]
    exact ⟨rfl, rfl, rfl, fun h => h⟩

theorem received (c : Client) (b : PlacedBlock) : SamePlace c (c.received b) := by
  by_cases hp : c.best.Precedes b.height
  · rw [received_of_precedes hp]
    exact ⟨rfl, rfl, rfl, fun h => h⟩
  · rw [received_of_not_precedes hp]
    exact refl c

end SamePlace

/-- A move lets a client keep its place unless it takes it out of the fan-out. -/
theorem Move.samePlace {c d : Client} (hm : Move given c d) (hin : d.registered = true) :
    SamePlace c d := by
  cases hm with
  | unregister => cases hin
  | stop => cases hin
  | start hp => exact ⟨rfl, by simp [isStopped, notify, hp], rfl, fun h => h⟩
  | leave => exact ⟨rfl, rfl, rfl, fun _ => rfl⟩
  | handle => exact .handle c
  | catchUp target => exact (Frame.startCatchUp c target none).samePlace
  | resume u answer => exact (Frame.resumeCatchUp c answer).samePlace
  | _ => exact ⟨rfl, rfl, rfl, fun h => h⟩

/-- Once out of the fan-out a client stays out. -/
theorem Moves.registered {c d : Client} (hm : Moves given c d) (hin : d.registered = true) :
    c.registered = true := by
  induction hm with
  | refl => exact hin
  | tail _ hlast ih => exact ih ((hlast.samePlace hin).registered ▸ hin)

/-- A client in the fan-out has not been stopped. -/
def Orderly (c : Client) : Prop := c.registered = true → c.isStopped = false ∧ c.last = none

theorem Orderly.congr {c d : Client} (h : c.Orderly) (hd : SamePlace c d) : d.Orderly := by
  intro hregistered
  obtain ⟨hrun, hlast⟩ := h (hd.registered ▸ hregistered)
  exact ⟨hd.isStopped.trans hrun, hd.last hlast⟩

theorem Orderly.move {c d : Client} (hm : Move given c d) (h : c.Orderly) : d.Orderly := by
  intro hin
  exact h.congr (hm.samePlace hin) hin

end ChainFeed.Client
