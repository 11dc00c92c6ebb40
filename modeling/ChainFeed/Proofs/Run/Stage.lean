import ChainFeed.Proofs.Run.Effect

/-!
# The life of a client

A client is fresh, then its handler runs, then it has been stopped. Only a start and a stop take it
from one stage to the next, and only a start tells of one. A client whose handler has never run has
nothing for a handler to go on with, and one that has been stopped is inert once its handler has
come to its end.
-/

namespace ChainFeed

def Notification.connected? : Notification → Option Stamp
  | clientConnected best => some best
  | _ => none

namespace Client

/-- The best blocks that starts have told of. -/
def greetings (c : Client) : List Stamp := c.sent.filterMap Notification.connected?

/-- The second client has been neither started nor stopped since the first. -/
structure SameStage (c d : Client) : Prop where
  phase : d.phase = c.phase
  greetings : d.greetings = c.greetings

section
variable {c d e : Client}

theorem greetings_notify (c : Client) {n : Notification} (hn : n.connected? = none) :
    (c.notify n).greetings = c.greetings := by
  rw [greetings, notify, List.filterMap_append, List.filterMap_cons_none hn, List.filterMap_nil,
    List.append_nil, greetings]

theorem greetings_applied (c : Client) (b : PlacedBlock) :
    (c.applied b).greetings = c.greetings := by
  have hnotes : (c.blockNotes b).filterMap Notification.connected? = [] := by
    rw [List.filterMap_eq_nil_iff]
    intro n hn
    simp only [blockNotes, List.mem_append, List.mem_map, List.mem_singleton] at hn
    obtain (hn | ⟨t, _, rfl⟩) | rfl := hn
    · split at hn
      · rw [List.mem_singleton.1 hn]
        rfl
      · cases hn
    · rfl
    · rfl
  rw [greetings, applied_sent, List.filterMap_append, hnotes, List.append_nil, greetings]

namespace SameStage

theorem refl (c : Client) : SameStage c c := ⟨rfl, rfl⟩

theorem trans (hd : SameStage c d) (he : SameStage d e) : SameStage c e :=
  ⟨he.phase.trans hd.phase, he.greetings.trans hd.greetings⟩

theorem isStopped (h : SameStage c d) : d.isStopped = c.isStopped := by
  rw [Client.isStopped, h.phase, Client.isStopped]

theorem of_eq (hphase : d.phase = c.phase) (hsent : d.sent = c.sent) : SameStage c d :=
  ⟨hphase, congrArg (List.filterMap _) hsent⟩

theorem notify (c : Client) {n : Notification} (hn : n.connected? = none) :
    SameStage c (c.notify n) := ⟨rfl, c.greetings_notify hn⟩

theorem applied (c : Client) (b : PlacedBlock) : SameStage c (c.applied b) :=
  ⟨rfl, c.greetings_applied b⟩

theorem keptByFetching (c : Client) : KeptByFetching (SameStage c) where
  catchUp _ h := h.trans (of_eq rfl rfl)
  caughtUp _ _ h := h.trans (notify _ rfl)
  gap _ _ h := h.trans (notify _ rfl)
  applied b h := h.trans (applied _ b)

theorem handleAdded (c : Client) (t : Transaction) : SameStage c (c.handleAdded t) := by
  by_cases ht : t.txid ∈ c.mirror
  · rw [handleAdded_of_mem ht]
    exact refl c
  · rw [handleAdded_of_not_mem ht]
    exact trans (d := { c with mirror := c.mirror.insert t.txid, watch := c.watch.follow t })
      (of_eq rfl rfl) (notify _ rfl)

theorem handle (c : Client) : SameStage c c.handle :=
  handle_keep (P := SameStage c) (fun _ _ _ h => h.trans (of_eq rfl rfl))
    (fun b _ h => (keptByFetching c).handleBlock h b) (fun t h => h.trans (handleAdded _ t))
    (fun _ h => h.trans (of_eq rfl rfl)) (refl c)

theorem offerAll (c : Client) (l : List Event) : SameStage c (c.offerAll l) := by
  obtain ⟨accepted, _, h⟩ := c.offerAll_eq l
  rw [h]
  exact of_eq rfl rfl

theorem receiveTransaction (c : Client) (t : Transaction) :
    SameStage c (c.receiveTransaction t).1 := by
  by_cases ht : t.txid ∈ c.mirror
  · rw [receiveTransaction_of_mem ht]
    exact refl c
  · rw [receiveTransaction_of_not_mem ht]
    exact of_eq rfl rfl

theorem received (c : Client) (b : PlacedBlock) : SameStage c (c.received b) := by
  by_cases hp : c.best.Precedes b.height
  · rw [received_of_precedes hp]
    exact of_eq rfl rfl
  · rw [received_of_not_precedes hp]
    exact refl c

/-- Of the operations only a start takes a client further. -/
theorem operate (w : Stamp) {a : Action} (ha : ∀ n, a ≠ .startClient n) (c : Client) :
    SameStage c (a.operate w c) := by
  cases a with
  | startClient n => exact absurd rfl (ha n)
  | catchUp n =>
    simp only [Action.operate, askedUpTo]
    split
    · exact refl c
    · exact (keptByFetching c).startCatchUp (refl c) w.height none
  | receiveBlock n b => exact received c b
  | receiveTransaction n t => exact receiveTransaction c t
  | handle n => exact handle c
  | answerClient n source => exact (keptByFetching c).resumeCatchUp (refl c) _
  | _ => exact of_eq rfl rfl

end SameStage

theorem isStopped_started (c : Client) : c.started.isStopped = c.isStopped := by
  cases hp : c.phase with
  | fresh => simp [started, Client.start, hp, Client.notify, isStopped]
  | running => simp [started, Client.start, hp]
  | stopped => simp [started, Client.start, hp]

/-- A start leaves a client running, unless it has been stopped. -/
theorem phase_started (hs : c.isStopped = false) : c.started.phase = .running := by
  cases hp : c.phase with
  | fresh => simp [started, Client.start, hp, Client.notify]
  | running => simp [started, Client.start, hp]
  | stopped => simp [hp, isStopped] at hs

/-- A handler that has nothing to go on with and takes nothing from the inbox makes no step. -/
theorem handle_of_rest (hheld : c.held = none) (hlast : c.last = none)
    (hs : c.isStarted = false) : c.handle = c := by
  rw [handle, if_neg]
  simp [canHandle, hheld, hlast, hs]

end

/-- The handler of the client has never run. -/
structure Unstarted (c : Client) : Prop where
  phase : c.phase ≠ .running
  held : c.held = none
  last : c.last = none
  cause : ∀ u, c.catchUp = some u → u.cause = none

namespace Unstarted

variable {c : Client}

theorem isStarted (h : c.Unstarted) : c.isStarted = false := decide_eq_false h.phase

theorem handle (h : c.Unstarted) : c.handle = c := handle_of_rest h.held h.last h.isStarted

theorem advanceCatchUp (h : c.Unstarted) {u : CatchUp} (hu : u.cause = none) :
    (c.advanceCatchUp u).Unstarted := by
  unfold Client.advanceCatchUp
  split
  · obtain ⟨b, hb, _⟩ | ⟨_, hc⟩ := c.closeCatchUp_cases u
    · rw [hu] at hb
      cases hb
    · rw [hc]
      refine ⟨?_, ?_, ?_, ?_⟩
      · rw [settled_phase]
        exact h.phase
      · rw [settled_held, h.held]
      · rw [settled_last, h.last]
      · rw [settled_catchUp]
        rintro _ ⟨⟩
  · refine ⟨h.phase, h.held, h.last, ?_⟩
    rintro _ ⟨⟩
    exact hu

theorem resumeCatchUp (h : c.Unstarted) (answer : Except Error Block) :
    (c.resumeCatchUp answer).1.Unstarted := by
  have hbroken : Unstarted { c with catchUp := none } :=
    ⟨h.phase, h.held, h.last, by rintro _ ⟨⟩⟩
  cases hu : c.catchUp with
  | none => rwa [resumeCatchUp_of_none hu]
  | some u =>
    cases answer with
    | error e =>
      rw [resumeCatchUp_error hu]
      exact hbroken
    | ok block =>
      by_cases hp : c.best.Precedes u.next
      · rw [resumeCatchUp_of_precedes hu hp]
        have happlied : (c.applied ⟨u.next, block⟩).Unstarted := ⟨h.phase, h.held, h.last, h.cause⟩
        exact happlied.advanceCatchUp (h.cause u hu)
      · obtain heq | heq : c.resumeCatchUp (.ok block) = _ ∨ c.resumeCatchUp (.ok block) = _ :=
          resumeCatchUp_of_not_precedes hu hp
        · rw [heq]
          exact h.advanceCatchUp (h.cause u hu)
        · rw [heq]
          exact hbroken

theorem startCatchUp (h : c.Unstarted) (target : Height) :
    (c.startCatchUp target none).Unstarted := by
  obtain ⟨_, _, hc⟩ | hc := c.startCatchUp_none_cases target
  · rw [hc]
    refine ⟨h.phase, h.held, h.last, ?_⟩
    rintro _ ⟨⟩
    rfl
  · rw [hc]
    exact ⟨h.phase, h.held, h.last, by rintro _ ⟨⟩⟩

theorem stop (h : c.Unstarted) : c.stop.Unstarted := by
  refine ⟨nofun, h.held, ?_, h.cause⟩
  rw [Client.stop, h.isStarted, Bool.false_and, if_neg Bool.false_ne_true]
  exact h.last

theorem dismissed (h : c.Unstarted) {d : Client} (hd : c.Dismissed d) : d.Unstarted := by
  cases hd with
  | kept => exact h
  | withdrawn => exact ⟨h.phase, h.held, h.last, h.cause⟩
  | stopped => exact h.stop

theorem offerAll (h : c.Unstarted) (l : List Event) : (c.offerAll l).Unstarted := by
  obtain ⟨accepted, _, hc⟩ := c.offerAll_eq l
  rw [hc]
  exact ⟨h.phase, h.held, h.last, h.cause⟩

theorem operate (h : c.Unstarted) (w : Stamp) {a : Action} (ha : ∀ n, a ≠ .startClient n) :
    (a.operate w c).Unstarted := by
  cases a with
  | startClient n => exact absurd rfl (ha n)
  | catchUp n =>
    simp only [Action.operate, askedUpTo]
    split
    · exact h
    · exact h.startCatchUp w.height
  | receiveBlock n b =>
    by_cases hp : c.best.Precedes b.height
    · simp only [Action.operate, received_of_precedes hp]
      exact ⟨h.phase, h.held, h.last, h.cause⟩
    · rwa [Action.operate, received_of_not_precedes hp]
  | receiveTransaction n t =>
    by_cases ht : t.txid ∈ c.mirror
    · rwa [Action.operate, receiveTransaction_of_mem ht]
    · rw [Action.operate, receiveTransaction_of_not_mem ht]
      exact ⟨h.phase, h.held, h.last, h.cause⟩
  | handle n => rwa [Action.operate, h.handle]
  | leave n => exact ⟨h.phase, h.held, rfl, h.cause⟩
  | answerClient n source => exact h.resumeCatchUp _
  | _ => exact ⟨h.phase, h.held, h.last, h.cause⟩

end Unstarted

/-- The client has been stopped, nothing is under way in it, and no event comes to it. -/
structure Inert (c : Client) : Prop where
  isStopped : c.isStopped = true
  registered : c.registered = false
  inbox : c.inbox = []
  catchUp : c.catchUp = none
  held : c.held = none
  last : c.last = none

namespace Inert

variable {c : Client}

theorem phase (h : c.Inert) : c.phase = .stopped := of_decide_eq_true h.isStopped

theorem stop (h : c.Inert) : c.stop = c := stop_of_stopped h.isStopped h.inbox h.registered

theorem start (h : c.Inert) : c.start = .error (.clientRemoved c.id) := by
  rw [Client.start, h.phase]

theorem deliver (h : c.Inert) (e : Event) : c.deliver e = .error (.clientRemoved c.id) := by
  rw [Client.deliver, if_pos h.isStopped]

theorem startCatchUp (h : c.Inert) (target : Height) : c.startCatchUp target none = c := by
  obtain ⟨_, hs, _⟩ | hc := c.startCatchUp_none_cases target
  · cases h.isStopped.symm.trans hs
  · rw [hc, ← h.catchUp]

theorem offerAll (h : c.Inert) (l : List Event) : c.offerAll l = c := by
  induction l with
  | nil => rfl
  | cons e rest ih =>
    obtain ⟨_, hs, _⟩ | ⟨_, hc⟩ := c.offer_cases e.concerns e
    · cases h.isStopped.symm.trans hs
    · rw [offerAll_cons, hc, ih]

theorem dismissed (h : c.Inert) {d : Client} (hd : c.Dismissed d) : d = c := by
  cases hd with
  | kept => rfl
  | withdrawn => rw [← h.registered]
  | stopped => exact h.stop

/-- What an inert client watches and asks for is all that its subscriber can change. -/
theorem operate (h : c.Inert) (w : Stamp) {a : Action} (hblock : ∀ n b, a ≠ .receiveBlock n b)
    (htx : ∀ n t, a ≠ .receiveTransaction n t) :
    ∃ watch wantsBlocks wantsAll, a.operate w c = { c with watch, wantsBlocks, wantsAll } := by
  have hsame (heq : a.operate w c = c) :
      ∃ watch wantsBlocks wantsAll, a.operate w c = { c with watch, wantsBlocks, wantsAll } :=
    ⟨c.watch, c.wantsBlocks, c.wantsAll, heq⟩
  cases a with
  | watchScript n s => exact ⟨_, _, _, rfl⟩
  | watchOutpoints n l => exact ⟨_, _, _, rfl⟩
  | notifyBlocks n => exact ⟨_, _, _, rfl⟩
  | notifyAllMempool n => exact ⟨_, _, _, rfl⟩
  | startClient n =>
    refine hsame ?_
    rw [Action.operate, started, h.start]
  | catchUp n =>
    refine hsame ?_
    rw [Action.operate, askedUpTo, h.catchUp, Option.isSome_none, if_neg Bool.false_ne_true,
      h.startCatchUp]
  | receiveBlock n b => exact absurd rfl (hblock n b)
  | receiveTransaction n t => exact absurd rfl (htx n t)
  | handle n =>
    have hidle : c.isStarted = false := by simp [isStarted, h.phase]
    exact hsame (handle_of_rest h.held h.last hidle)
  | leave n =>
    refine hsame ?_
    rw [Action.operate, leave, ← h.last]
  | answerClient n source =>
    refine hsame ?_
    rw [Action.operate, answered, resumeCatchUp_of_none h.catchUp]
  | _ => exact hsame rfl

theorem congr (h : c.Inert) (watch : WatchList) (wantsBlocks wantsAll : Bool) :
    Inert { c with watch, wantsBlocks, wantsAll } :=
  ⟨h.isStopped, h.registered, h.inbox, h.catchUp, h.held, h.last⟩

end Inert

end Client

end ChainFeed
