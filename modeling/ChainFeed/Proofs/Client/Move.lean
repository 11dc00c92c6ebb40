import ChainFeed.Proofs.Client.Frame
import ChainFeed.Hub.Dispatch
import Mathlib.Logic.Relation

/-!
# What happens to a client

A move is one thing that a connection, the handler or the subscriber does to a client, where nothing
comes in but what is `given`. Left out are the four that reach past the inbox or into the
watch-list: they are told apart where a property depends on them.
-/

namespace ChainFeed

def Event.block? : Event → Option PlacedBlock
  | .blockConnected b => some b
  | _ => none

namespace Client

/-- What may come to a client: events for its inbox, heights up to which its subscriber asks for
the blocks, and answers to the fetch of a block at some height. -/
structure Input where
  event : Event → Prop
  target : Height → Prop
  answer : Height → Except Error Block → Prop

inductive Move (given : Input) : Client → Client → Prop where
  | unregister (c : Client) : Move given c { c with registered := false }
  | wantBlocks (c : Client) : Move given c { c with wantsBlocks := true }
  | wantAll (c : Client) : Move given c { c with wantsAll := true }
  | start (c : Client) (h : c.phase = .fresh) :
      Move given c (({ c with phase := .running }).notify (.clientConnected c.best))
  | stop (c : Client) : Move given c c.stop
  | leave (c : Client) : Move given c c.leave
  | deliver (c : Client) (e : Event) (hgiven : given.event e) (hs : c.isStopped = false)
      (hroom : c.inbox.length < c.capacity) : Move given c { c with inbox := c.inbox ++ [e] }
  | handle (c : Client) : Move given c c.handle
  | catchUp (c : Client) (target : Height) (hgiven : given.target target)
      (h : c.catchUp = none) : Move given c (c.startCatchUp target none)
  | resume (c : Client) (u : CatchUp) (answer : Except Error Block) (h : c.catchUp = some u)
      (hgiven : given.answer u.next answer) : Move given c (c.resumeCatchUp answer).1

abbrev Moves (given : Input) : Client → Client → Prop := Relation.ReflTransGen (Move given)

variable {given : Input}

/-- What every move keeps is kept by any number of them. -/
theorem Moves.keep {P : Client → Prop} (hP : ∀ {c d}, Move given c d → P c → P d) {c d : Client}
    (h : Moves given c d) (hc : P c) : P d := by
  induction h with
  | refl => exact hc
  | tail _ hm ih => exact hP hm ih

theorem deliver_eq_ok_iff {c d : Client} {e : Event} : c.deliver e = .ok d ↔
    c.isStopped = false ∧ c.inbox.length < c.capacity ∧
      d = { c with inbox := c.inbox ++ [e] } := by
  unfold deliver
  by_cases hs : c.isStopped = true
  · simp [hs]
  · by_cases hr : c.inbox.length < c.capacity
    · simp [hs, hr, eq_comm]
    · simp [hs, hr]

/-- A fan-out puts the event at the end of the inbox or leaves the client as it is. -/
theorem offer_cases (wants : Client → Bool) (e : Event) (c : Client) :
    (c.isAddressed wants = true ∧ c.isStopped = false ∧ c.inbox.length < c.capacity ∧
      c.offer wants e = { c with inbox := c.inbox ++ [e] }) ∨
    (¬ (c.isAddressed wants = true ∧ c.isStopped = false ∧ c.inbox.length < c.capacity) ∧
      c.offer wants e = c) := by
  by_cases ha : c.isAddressed wants = true
  · cases hd : c.deliver e with
    | ok d =>
      obtain ⟨hs, hr, rfl⟩ := deliver_eq_ok_iff.1 hd
      exact .inl ⟨ha, hs, hr, by simp [offer, ha, reception, hd]⟩
    | error err =>
      refine .inr ⟨?_, by cases err <;> simp [offer, ha, reception, hd]⟩
      rintro ⟨_, hs, hr⟩
      rw [deliver_eq_ok_iff.2 ⟨hs, hr, rfl⟩] at hd
      cases hd
  · exact .inr ⟨fun h => ha h.1, by simp [offer, ha]⟩

theorem moves_offer (wants : Client → Bool) {e : Event} (hgiven : given.event e) (c : Client) :
    Moves given c (c.offer wants e) := by
  obtain ⟨_, hs, hr, he⟩ | ⟨_, he⟩ := c.offer_cases wants e
  · rw [he]
    exact .single (.deliver c e hgiven hs hr)
  · rw [he]

theorem moves_of_start {c d : Client} {b : Bool} (h : c.start = .ok (d, b)) :
    Moves given c d := by
  unfold start at h
  cases hp : c.phase with
  | stopped => simp [hp] at h
  | running =>
    obtain ⟨rfl, _⟩ : c = d ∧ false = b := by simpa [hp] using h
    exact .refl
  | fresh =>
    obtain ⟨rfl, _⟩ : _ = d ∧ true = b := by simpa [hp] using h
    exact .single (.start c hp)

/-- The handler goes on with the block it holds, with the event that it took before it leaves, or
with the next one of the inbox. -/
theorem handle_cases (c : Client) :
    c.handle = c ∨
    (∃ b, c.held = some b ∧ c.catchUp = none ∧
      c.handle = ({ c with held := none }).handleBlock b) ∨
    (∃ e, c.held = none ∧ c.isBusy = false ∧ c.last = some e ∧
      c.handle = c.leave.handleEvent e) ∨
    (∃ e rest, c.held = none ∧ c.isBusy = false ∧ c.last = none ∧ c.isStarted = true ∧
      c.inbox = e :: rest ∧ c.handle = ({ c with inbox := rest }).handleEvent e) := by
  by_cases hc : c.canHandle = true
  · cases hheld : c.held with
    | some b =>
      have hidle : c.catchUp = none := by simpa [canHandle, hheld] using hc
      exact .inr (.inl ⟨b, rfl, hidle, by simp only [handle, if_pos hc, hheld]⟩)
    | none =>
      have hfree : c.isBusy = false ∧
          (c.last.isSome = true ∨ c.isStarted = true ∧ c.inbox ≠ []) := by
        simpa [canHandle, hheld] using hc
      cases hlast : c.last with
      | some e =>
        refine .inr (.inr (.inl ⟨e, rfl, hfree.1, rfl, ?_⟩))
        simp only [handle, if_pos hc, hheld, hlast]
      | none =>
        cases hin : c.inbox with
        | nil => exact .inl (by simp only [handle, if_pos hc, hheld, hlast, hin])
        | cons e rest =>
          have hstarted : c.isStarted = true := by
            obtain h | h := hfree.2
            · rw [hlast] at h
              cases h
            · exact h.1
          refine .inr (.inr (.inr ⟨e, rest, rfl, hfree.1, rfl, hstarted, rfl, ?_⟩))
          simp only [handle, if_pos hc, hheld, hlast, hin]
  · exact .inl (by rw [handle, if_neg hc])

/-- To see that the handler keeps `P`, it is enough to look at each kind of event. -/
theorem handle_keep {P : Client → Prop}
    (hframe : ∀ {c : Client} held last inbox, P c → P { c with held, last, inbox })
    (hblock : ∀ {c : Client} b, c.catchUp = none → P c → P (c.handleBlock b))
    (hadded : ∀ {c : Client} t, P c → P (c.handleAdded t))
    (hgone : ∀ {c : Client} id, P c → P (c.forgetTransaction id).1) {c : Client} (hc : P c) :
    P c.handle := by
  have hevent : ∀ {d : Client} e, P d → P (d.handleEvent e) := by
    intro d e hd
    cases e with
    | blockConnected b =>
      cases hu : d.catchUp with
      | none => simpa only [handleEvent, hu, Option.isSome_none, Bool.false_eq_true, if_false]
          using hblock b hu hd
      | some u => simpa only [handleEvent, hu, Option.isSome_some, if_true]
          using hframe (some b) d.last d.inbox hd
    | transactionAdded t => exact hadded t hd
    | transactionRemoved id => exact hgone id hd
  obtain h | ⟨b, _, hu, h⟩ | ⟨e, _, _, _, h⟩ | ⟨e, rest, _, _, _, _, _, h⟩ := c.handle_cases
  · rwa [h]
  · rw [h]
    exact hblock b hu (hframe none c.last c.inbox hc)
  · rw [h]
    exact hevent e (hframe c.held none c.inbox hc)
  · rw [h]
    exact hevent e (hframe c.held c.last rest hc)

theorem handleAdded_inbox (c : Client) (t : Transaction) : (c.handleAdded t).inbox = c.inbox := by
  by_cases ht : t.txid ∈ c.mirror
  · rw [handleAdded_of_mem ht]
  · rw [handleAdded_of_not_mem ht]
    rfl

theorem handleEvent_inbox (c : Client) (e : Event) : (c.handleEvent e).inbox = c.inbox := by
  cases e with
  | blockConnected b =>
    simp only [handleEvent]
    split
    · rfl
    · exact (Frame.handleBlock c b).inbox
  | transactionAdded t => exact c.handleAdded_inbox t
  | transactionRemoved id => rfl

/-- The handler only takes events out. -/
theorem handle_inbox (c : Client) : c.handle.inbox <:+ c.inbox := by
  obtain h | ⟨b, _, _, h⟩ | ⟨e, _, _, _, h⟩ | ⟨e, rest, _, _, _, _, hin, h⟩ := c.handle_cases
  · exact ⟨[], by rw [h, List.nil_append]⟩
  · exact ⟨[], by rw [h, (Frame.handleBlock _ b).inbox, List.nil_append]⟩
  · exact ⟨[], by rw [h, handleEvent_inbox, List.nil_append, leave]⟩
  · exact ⟨[e], by rw [h, handleEvent_inbox, hin, List.singleton_append]⟩

/-- A handler that is told to end has at most the first event still to take. -/
theorem stop_sublist (c : Client) :
    (c.stop.last.toList ++ c.stop.inbox).Sublist (c.last.toList ++ c.inbox) := by
  simp only [stop, List.append_nil]
  split
  · have hhead : c.inbox.head?.toList.Sublist c.inbox := by
      cases c.inbox with
      | nil => exact .refl _
      | cons e rest => exact List.singleton_sublist.2 List.mem_cons_self
    exact hhead.trans (List.sublist_append_right _ _)
  · exact List.sublist_append_left _ _

/-- No event is in an inbox but those that were there and those that came in. -/
theorem Moves.mem_inbox {c d : Client} (h : Moves given c d) {e : Event} (he : e ∈ d.inbox) :
    e ∈ c.inbox ∨ given.event e := by
  have hall : ∀ e ∈ d.inbox, e ∈ c.inbox ∨ given.event e := by
    refine h.keep (P := fun d => ∀ e ∈ d.inbox, e ∈ c.inbox ∨ given.event e) ?_
      (fun _ he => .inl he)
    intro x y hm hx e he
    cases hm with
    | deliver e' hgiven =>
      obtain hold | hnew := List.mem_append.1 he
      · exact hx e hold
      · exact .inr (List.mem_singleton.1 hnew ▸ hgiven)
    | stop => cases he
    | handle => exact hx e (x.handle_inbox.subset he)
    | catchUp target => exact hx e ((Frame.startCatchUp x target none).inbox ▸ he)
    | resume u answer => exact hx e ((Frame.resumeCatchUp x answer).inbox ▸ he)
    | _ => exact hx e he
  exact hall e he

end Client

end ChainFeed
