import ChainFeed.Proofs.Client.Operation
import ChainFeed.Proofs.Run.Effect

/-!
# The operations of a run

Each step of a connection comes to a few operations on the client at a slot: what its subscriber
does, the event that its handler takes, the block that it has fetched. A block that is kept counts
when it is tried again, and the block that opened a gap counts when the gap has been filled. The
rest of a step, such as a notice of a gap or the beginning of a catch-up, is not an operation.
-/

namespace ChainFeed

namespace Client

/-- What it comes to that the handler takes an event. A block is kept while others are being
fetched. -/
def eventOperations (x : Client) : Event → List Operation
  | .blockConnected b => if x.catchUp.isSome then [] else [.block b]
  | .transactionAdded t => [.addition t]
  | .transactionRemoved id => [.removal id]

/-- What a step of the handler comes to: a block that was kept is tried, or an event is taken. -/
def handleOperations (x : Client) : List Operation :=
  match x.held with
  | some b => if x.catchUp.isSome then [] else [.block b]
  | none => x.next?.toList.flatMap x.eventOperations

/-- What it comes to that the fetch is answered. The fetched block is tried. When that was the end
of the catch-up, and nothing broke it off, the block that had opened the gap is tried again. -/
def answerOperations (x : Client) (answer : Except Error Block) : List Operation :=
  match x.catchUp, answer with
  | some u, .ok block =>
    let ended := (x.resumeCatchUp answer).2.isNone && (x.resumeCatchUp answer).1.catchUp.isNone
    .block ⟨u.next, block⟩ :: if ended then u.cause.toList.map .block else []
  | _, _ => []

def operations (x : Client) : Action → List Operation
  | .watchScript _ s => [.watchScript s]
  | .watchOutpoints _ l => [.watchOutpoints l]
  | .receiveBlock _ b => [.block b]
  | .receiveTransaction _ t => [.handed t]
  | .handle _ => x.handleOperations
  | .answerClient _ source => x.answerOperations (Connection.answerTo source x)
  | _ => []

section
variable {x : Client}

theorem account_notify {n : Notification} (x : Client) (hn : n.unconfirmed? = none) :
    (x.notify n).account = x.account := by
  rw [account, account, unconfirmed_notify x hn]
  rfl

theorem account_settled (x : Client) (u : CatchUp) : (x.settled u).account = x.account := by
  unfold settled
  split
  · exact account_notify _ rfl
  · rfl

theorem account_startCatchUp (x : Client) (target : Height) :
    (x.startCatchUp target none).account = x.account := by
  obtain ⟨_, _, h⟩ | h := x.startCatchUp_none_cases target
  · rw [h]
    rfl
  · rw [h]
    rfl

theorem account_received (x : Client) (b : PlacedBlock) :
    (x.received b).account = (x.perform (.block b)).account := by
  by_cases hp : x.best.Precedes b.height
  · rw [received_of_precedes hp, account_perform]
    simp only [if_pos hp]
    rfl
  · rw [received_of_not_precedes hp, perform_block_of_not_precedes hp]

theorem account_handleBlock (hidle : x.catchUp = none) (b : PlacedBlock) :
    (x.handleBlock b).account = (x.perform (.block b)).account := by
  obtain ⟨hp, h⟩ | ⟨hle, h⟩ | ⟨hlt, _, h⟩ | ⟨hlt, _, _, h⟩ := handleBlock_cases hidle b
  · rw [h, perform_block_of_precedes hp]
  · have hp : ¬ x.best.Precedes b.height := fun hp => by
      have hnext : b.height.toNat = x.best.height.toNat + 1 := hp
      omega
    rw [h, perform_block_of_not_precedes hp]
  · have hp : ¬ x.best.Precedes b.height := fun hp => Nat.ne_of_gt hlt hp
    rw [h, perform_block_of_not_precedes hp, account_notify x rfl]
  · have hp : ¬ x.best.Precedes b.height := fun hp => Nat.ne_of_gt hlt hp
    have hgap : (x.notify (.heightGap x.best.height b.height)).account = x.account :=
      account_notify x rfl
    rw [h, perform_block_of_not_precedes hp, ← hgap]
    rfl

theorem account_handleEvent (x : Client) (e : Event) :
    (x.handleEvent e).account = (x.performAll (x.eventOperations e)).account := by
  cases e with
  | blockConnected b =>
    cases hu : x.catchUp with
    | none => simpa [handleEvent, eventOperations, hu] using account_handleBlock hu b
    | some u =>
      simp only [handleEvent, eventOperations, hu, Option.isSome_some, if_true]
      rfl
  | transactionAdded t => rfl
  | transactionRemoved id => rfl

theorem account_handle (x : Client) :
    x.handle.account = (x.performAll x.handleOperations).account := by
  cases hheld : x.held with
  | some b =>
    cases hu : x.catchUp with
    | none =>
      have hc : x.canHandle = true := by simp [canHandle, hheld, hu]
      have hhandle : x.handle = ({ x with held := none }).handleBlock b := by
        simp only [handle, if_pos hc, hheld]
      have hops : x.handleOperations = [.block b] := by simp [handleOperations, hheld, hu]
      have hput : ({ x with held := none }).account = x.account := rfl
      rw [hhandle, hops]
      exact (account_handleBlock (x := { x with held := none }) hu b).trans
        (account_perform_congr hput (.block b))
    | some u =>
      have hc : ¬ x.canHandle = true := by simp [canHandle, hheld, hu]
      rw [handle, if_neg hc]
      simp [handleOperations, hheld, hu]
  | none =>
    have hops : x.handleOperations = x.next?.toList.flatMap x.eventOperations := by
      simp only [handleOperations, hheld]
    cases hnext : x.next? with
    | none =>
      rw [handle_of_next?_eq_none hheld hnext, hops, hnext]
      rfl
    | some e =>
      obtain ⟨_, last, inbox, hhandle⟩ := handle_of_next? hnext
      have hevent : ({ x with last, inbox }).eventOperations e = x.eventOperations e := by
        cases e <;> rfl
      have htaken : ({ x with last, inbox }).account = x.account := rfl
      rw [hhandle, hops, hnext, account_handleEvent, hevent, Option.toList_some,
        List.flatMap_singleton]
      exact account_performAll_congr htaken _

/-- The end of a catch-up comes to what is then done with the block that caused it. -/
theorem account_closeCatchUp (x : Client) (u : CatchUp) :
    (x.closeCatchUp u).account = (x.performAll (u.cause.toList.map .block)).account := by
  have hsettled := x.account_settled u
  obtain ⟨b, hu, hp, h⟩ | ⟨hnot, h⟩ := x.closeCatchUp_cases u
  · have hp' : (x.settled u).best.Precedes b.height := by rwa [settled_best]
    rw [h, hu, ← perform_block_of_precedes hp']
    exact account_perform_congr hsettled (.block b)
  · rw [h, hsettled]
    cases hu : u.cause with
    | none => rfl
    | some b =>
      exact congrArg account (perform_block_of_not_precedes (hnot b hu)).symm

theorem account_advanceCatchUp (x : Client) (u : CatchUp) :
    (x.advanceCatchUp u).account = (x.performAll
      (if (x.advanceCatchUp u).catchUp.isNone then u.cause.toList.map .block else [])).account := by
  by_cases hlast : u.next = u.target ∨ x.isStopped = true
  · have hended : (x.closeCatchUp u).catchUp = none := by
      obtain ⟨b, _, _, h⟩ | ⟨_, h⟩ := x.closeCatchUp_cases u
      · rw [h, applied_catchUp, settled_catchUp]
      · rw [h, settled_catchUp]
    rw [advanceCatchUp_of_last hlast, account_closeCatchUp, hended]
    rfl
  · have hne : u.next ≠ u.target := fun he => hlast (.inl he)
    rw [advanceCatchUp_of_not_last hne (by simpa using fun hs => hlast (.inr hs))]
    rfl

theorem account_resumeCatchUp (x : Client) (answer : Except Error Block) :
    (x.resumeCatchUp answer).1.account = (x.performAll (x.answerOperations answer)).account := by
  cases hu : x.catchUp with
  | none =>
    rw [resumeCatchUp_of_none hu]
    simp [answerOperations, hu]
  | some u =>
    cases answer with
    | error e =>
      rw [resumeCatchUp_error hu]
      simp only [answerOperations, hu]
      rfl
    | ok block =>
      by_cases hp : x.best.Precedes u.next
      · simp only [answerOperations, hu, resumeCatchUp_of_precedes hu hp, Option.isNone_none,
          Bool.true_and, performAll_cons,
          perform_block_of_precedes (x := x) (b := ⟨u.next, block⟩) hp]
        exact account_advanceCatchUp _ u
      · have hrejected := perform_block_of_not_precedes (x := x) (b := ⟨u.next, block⟩) hp
        obtain h | h : x.resumeCatchUp (.ok block) = _ ∨ x.resumeCatchUp (.ok block) = _ :=
          resumeCatchUp_of_not_precedes hu hp
        · simp only [answerOperations, hu, h, Option.isNone_none, Bool.true_and, performAll_cons,
            hrejected]
          exact account_advanceCatchUp x u
        · simp only [answerOperations, hu, h, performAll_cons, hrejected]
          rfl

/-- Nothing but its operations bears on the account of a client. -/
theorem account_operate (w : Stamp) (a : Action) (x : Client) :
    (a.operate w x).account = (x.performAll (x.operations a)).account := by
  cases a with
  | startClient n =>
    simp only [Action.operate, started, start]
    cases x.phase with
    | fresh => exact account_notify { x with phase := .running } rfl
    | running => rfl
    | stopped => rfl
  | catchUp n =>
    simp only [Action.operate, askedUpTo]
    split
    · rfl
    · exact x.account_startCatchUp w.height
  | receiveBlock n b => exact x.account_received b
  | handle n => exact x.account_handle
  | answerClient n source => exact x.account_resumeCatchUp _
  | _ => rfl

theorem Dismissed.account {y : Client} (h : x.Dismissed y) : y.account = x.account := by
  cases h with
  | kept => rfl
  | withdrawn => rfl
  | stopped => rfl

end

end Client

namespace Connection

open Client

/-- What a step comes to for the client at `slot`. -/
def operationsAt (slot : Nat) (c : Connection) (a : Action) : List Operation :=
  match c.hub.clients[slot]? with
  | some x => if a.subject = some slot then x.operations a else []
  | none => []

section
variable {slot : Nat} {c : Connection} {x y : Client}

theorem operationsAt_of_subject {a : Action} (hx : c.hub.clients[slot]? = some x)
    (ha : a.subject = some slot) : c.operationsAt slot a = x.operations a := by
  simp only [operationsAt, hx, if_pos ha]

theorem operationsAt_of_ne {a : Action} (ha : a.subject ≠ some slot) :
    c.operationsAt slot a = [] := by
  unfold operationsAt
  split
  · exact if_neg ha
  · rfl

theorem account_step {a : Action} (hx : c.hub.clients[slot]? = some x)
    (hy : (c.step a).hub.clients[slot]? = some y) :
    y.account = (x.performAll (c.operationsAt slot a)).account := by
  cases effect_of_getElem? hx hy with
  | fed ha heq =>
    have hsubject : a.subject ≠ some slot := by
      rw [Action.subject_of_feed ha]
      exact nofun
    obtain ⟨accepted, _, hoffered⟩ := x.offerAll_eq (c.dispatched a)
    rw [operationsAt_of_ne hsubject, heq, hoffered]
    rfl
  | operated _ hsubject heq =>
    rw [operationsAt_of_subject hx hsubject, heq]
    exact account_operate _ a x
  | dismissed _ hsubject hdismissed =>
    rw [operationsAt_of_ne hsubject]
    exact hdismissed.account

/-- What has become of a client in a run is what its operations make of it. -/
theorem account_run (hx : c.hub.clients[slot]? = some x) (actions : List Action) :
    ∃ y, (c.run actions).hub.clients[slot]? = some y ∧
      y.account = (x.performAll (c.trace (operationsAt slot) actions)).account := by
  induction actions generalizing c x with
  | nil => exact ⟨x, hx, rfl⟩
  | cons a rest ih =>
    obtain ⟨z, hz, _⟩ := c.step_client slot a hx
    obtain ⟨y, hy, haccount⟩ := ih hz
    refine ⟨y, hy, haccount.trans ?_⟩
    rw [trace_cons, performAll_append]
    exact account_performAll_congr (account_step hx hz) _

/-- A client that is made in a run watches nothing and knows of no transaction at first. -/
theorem account_run_of_none {actions : List Action} (hx : c.hub.clients[slot]? = none)
    (hy : (c.run actions).hub.clients[slot]? = some y) :
    ∃ fresh : Client, fresh.watch = .empty ∧ fresh.mirror = .empty ∧ fresh.unconfirmed = [] ∧
      y.account = (fresh.performAll (c.trace (operationsAt slot) actions)).account := by
  induction actions generalizing c with
  | nil =>
    rw [run_nil, hx] at hy
    cases hy
  | cons a rest ih =>
    have hnone : c.operationsAt slot a = [] := by
      simp only [operationsAt, hx]
    rw [trace_cons, hnone, List.nil_append]
    cases hz : (c.step a).hub.clients[slot]? with
    | none => exact ih hz hy
    | some fresh =>
      obtain ⟨_, _, _, hnew⟩ := newClient_of_free slot c hx hz
      obtain ⟨z, hz', haccount⟩ := account_run hz rest
      obtain rfl : z = y := Option.some.inj (hz'.symm.trans hy)
      exact ⟨fresh, by rw [hnew]; rfl, by rw [hnew]; rfl, by rw [hnew]; rfl, haccount⟩

end

end Connection

end ChainFeed
