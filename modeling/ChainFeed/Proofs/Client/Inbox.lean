import ChainFeed.Proofs.Client.Standing

/-!
# The inbox of a client

An inbox never holds more events than it was made for, and it is emptied when the client is stopped.
Of a client that has not been stopped only the handler takes events out, one at a time and in order.
-/

namespace ChainFeed.Client

def settings (c : Client) : ClientId × Nat := (c.id, c.capacity)

section
variable (c : Client)

theorem keptByFetching_settings : KeptByFetching fun d => d.settings = c.settings :=
  ⟨fun _ h => h, fun _ _ h => h, fun _ _ h => h, fun _ h => h⟩

@[simp] theorem settings_startCatchUp (target : Height) (cause : Option PlacedBlock) :
    (c.startCatchUp target cause).settings = c.settings :=
  c.keptByFetching_settings.startCatchUp rfl target cause

@[simp] theorem settings_resumeCatchUp (answer : Except Error Block) :
    (c.resumeCatchUp answer).1.settings = c.settings :=
  c.keptByFetching_settings.resumeCatchUp rfl answer

@[simp] theorem settings_handleBlock (b : PlacedBlock) :
    (c.handleBlock b).settings = c.settings :=
  c.keptByFetching_settings.handleBlock rfl b

@[simp] theorem settings_receiveTransaction (t : Transaction) :
    (c.receiveTransaction t).1.settings = c.settings := by
  unfold receiveTransaction
  split <;> rfl

@[simp] theorem settings_received (b : PlacedBlock) : (c.received b).settings = c.settings := by
  by_cases hp : c.best.Precedes b.height
  · rw [received_of_precedes hp]
    rfl
  · rw [received_of_not_precedes hp]

@[simp] theorem settings_handle : c.handle.settings = c.settings := by
  refine handle_keep (P := fun d => d.settings = c.settings) (fun _ _ _ h => h) ?_ ?_ ?_ rfl
  · exact fun b _ h => (settings_handleBlock _ b).trans h
  · intro d t h
    unfold handleAdded
    dsimp only
    split
    · exact (d.settings_receiveTransaction t).trans h
    · exact (d.settings_receiveTransaction t).trans h
  · exact fun _ h => h

end

theorem received_inbox (c : Client) (b : PlacedBlock) : (c.received b).inbox = c.inbox := by
  by_cases hp : c.best.Precedes b.height
  · rw [received_of_precedes hp]
  · rw [received_of_not_precedes hp]

theorem receiveTransaction_inbox (c : Client) (t : Transaction) :
    (c.receiveTransaction t).1.inbox = c.inbox := by
  unfold receiveTransaction
  split <;> rfl

/-- A stopped client stays stopped. -/
theorem Move.isStopped {given : Input} {c d : Client} (hm : Move given c d)
    (hs : c.isStopped = true) : d.isStopped = true := by
  cases hm with
  | stop => rfl
  | start hp => simp [Client.isStopped, hp] at hs
  | handle => exact (SamePlace.handle c).isStopped.trans hs
  | catchUp target => exact (Frame.startCatchUp c target none).samePlace.isStopped.trans hs
  | resume u answer => exact (Frame.resumeCatchUp c answer).samePlace.isStopped.trans hs
  | _ => exact hs

/-- A client that was made for `size` events holds no more. When it has been stopped it holds none
and is out of the fan-out, and before that its handler is not told to end. -/
structure Sized (size : Nat) (c : Client) : Prop where
  capacity : c.capacity = max 1 size
  room : c.inbox.length ≤ c.capacity
  emptied : c.isStopped = true → c.inbox = []
  withdrawn : c.isStopped = true → c.registered = false
  running : c.isStopped = false → c.last = none

namespace Sized

variable {size : Nat} {c d : Client}

theorem new (id : ClientId) (network : Network) (auto : Bool) (size : Nat) (best : Stamp) :
    Sized size { Client.new id network auto size best with registered := true } :=
  ⟨rfl, Nat.zero_le _, fun _ => rfl, nofun, fun _ => rfl⟩

theorem congr (h : Sized size c) (hplace : SamePlace c d) (hsettings : d.settings = c.settings)
    (hinbox : d.inbox <:+ c.inbox) : Sized size d := by
  have hcapacity : d.capacity = c.capacity := congrArg Prod.snd hsettings
  have hstopped (hs : d.isStopped = true) : c.isStopped = true := hplace.isStopped ▸ hs
  refine ⟨hcapacity.trans h.capacity, ?_, fun hs => ?_, fun hs => ?_, fun hs => ?_⟩
  · rw [hcapacity]
    exact Nat.le_trans hinbox.length_le h.room
  · rw [h.emptied (hstopped hs)] at hinbox
    exact List.suffix_nil.1 hinbox
  · exact hplace.registered.trans (h.withdrawn (hstopped hs))
  · exact hplace.last (h.running (hplace.isStopped ▸ hs))

theorem move {given : Input} (hm : Move given c d) (h : Sized size c) : Sized size d := by
  cases hm with
  | unregister => exact ⟨h.capacity, h.room, h.emptied, fun _ => rfl, h.running⟩
  | stop => exact ⟨h.capacity, Nat.zero_le _, fun _ => rfl, fun _ => rfl, by rintro ⟨⟩⟩
  | start hp =>
    have hrunning : c.isStopped = false := by simp [isStopped, hp]
    exact ⟨h.capacity, h.room, by rintro ⟨⟩, by rintro ⟨⟩, fun _ => h.running hrunning⟩
  | leave => exact ⟨h.capacity, h.room, h.emptied, h.withdrawn, fun _ => rfl⟩
  | deliver e _ hs hroom =>
    have hlength : (c.inbox ++ [e]).length ≤ c.capacity := by
      rw [List.length_append]
      exact hroom
    have hemptied : c.isStopped = true → c.inbox ++ [e] = [] := by simp [hs]
    exact ⟨h.capacity, hlength, hemptied, h.withdrawn, h.running⟩
  | handle => exact h.congr (.handle c) c.settings_handle c.handle_inbox
  | catchUp target =>
    have hframe := Frame.startCatchUp c target none
    exact h.congr hframe.samePlace (c.settings_startCatchUp target none)
      (by simp only [hframe.inbox, List.suffix_rfl])
  | resume u answer =>
    have hframe := Frame.resumeCatchUp c answer
    exact h.congr hframe.samePlace (c.settings_resumeCatchUp answer)
      (by simp only [hframe.inbox, List.suffix_rfl])
  | _ => exact ⟨h.capacity, h.room, h.emptied, h.withdrawn, h.running⟩

end Sized

/-- The event that the handler takes when it makes its next step. -/
def next? (c : Client) : Option Event :=
  if c.canHandle then
    match c.held, c.last, c.inbox with
    | some _, _, _ => none
    | none, some e, _ => some e
    | none, none, e :: _ => some e
    | none, none, [] => none
  else none

/-- A handler that has not been told to end takes the first event of the inbox or none. -/
theorem inbox_eq_next?_append (c : Client) (hlast : c.last = none) :
    c.inbox = c.next?.toList ++ c.handle.inbox := by
  by_cases hc : c.canHandle = true
  · cases hheld : c.held with
    | some b =>
      have hnext : c.next? = none := by
        simp only [next?, if_pos hc, hheld]
      have hframe := Frame.handleBlock { c with held := none } b
      have hhandle : c.handle = ({ c with held := none }).handleBlock b := by
        simp only [handle, if_pos hc, hheld]
      rw [hnext, hhandle, hframe.inbox]
      rfl
    | none =>
      cases hin : c.inbox with
      | nil =>
        simp [next?, handle, hc, hheld, hlast, hin]
      | cons e rest =>
        have hnext : c.next? = some e := by
          simp only [next?, if_pos hc, hheld, hlast, hin]
        have hhandle : c.handle = ({ c with inbox := rest }).handleEvent e := by
          simp only [handle, if_pos hc, hheld, hlast, hin]
        rw [hnext, hhandle, handleEvent_inbox]
        rfl
  · have hnext : c.next? = none := if_neg hc
    rw [hnext, handle, if_neg hc]
    rfl

/-- The event that is taken is the one that is dealt with. -/
theorem handle_of_next? {c : Client} {e : Event} (hnext : c.next? = some e) :
    c.held = none ∧ ∃ last inbox, c.handle = ({ c with last, inbox }).handleEvent e := by
  unfold next? at hnext
  split at hnext
  · next hc =>
    split at hnext
    · cases hnext
    · next e' hheld hlast =>
      obtain rfl : e' = e := Option.some.inj hnext
      have hhandle : c.handle = c.leave.handleEvent e' := by
        simp only [handle, if_pos hc, hheld, hlast]
      exact ⟨hheld, none, c.inbox, hhandle⟩
    · next e' rest hheld hlast hin =>
      obtain rfl : e' = e := Option.some.inj hnext
      have hhandle : c.handle = ({ c with inbox := rest }).handleEvent e' := by
        simp only [handle, if_pos hc, hheld, hlast, hin]
      exact ⟨hheld, c.last, rest, hhandle⟩
    · cases hnext
  · cases hnext

/-- A handler that keeps no block and takes no event makes no step. -/
theorem handle_of_next?_eq_none {c : Client} (hheld : c.held = none) (hnext : c.next? = none) :
    c.handle = c := by
  obtain h | ⟨b, hsome, _⟩ | ⟨e, _, hfree, hlast, _⟩ | ⟨e, rest, _, hfree, hlast, hrun, hin, _⟩ :=
    c.handle_cases
  · exact h
  · rw [hheld] at hsome
    cases hsome
  · have hc : c.canHandle = true := by simp [canHandle, hheld, hfree, hlast]
    simp [next?, hc, hheld, hlast] at hnext
  · have hc : c.canHandle = true := by simp [canHandle, hheld, hfree, hrun, hin]
    simp [next?, hc, hheld, hlast, hin] at hnext

end ChainFeed.Client
