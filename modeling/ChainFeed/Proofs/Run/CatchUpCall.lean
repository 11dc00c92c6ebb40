import ChainFeed.Proofs.Client.Fetching
import ChainFeed.Proofs.Run.Conservation
import ChainFeed.Proofs.Run.Recovery

/-!
# Calls to catch up

A subscriber that asks for the missing blocks gets them one at a time, in order, until they are all
there or one cannot be fetched. What has been applied by then stays, so that the next call goes on
from there, and calls that fail only delay what one call that succeeds comes to.
-/

namespace ChainFeed

open Client

def fetchedBlocks (answers : List (Height × Except Error Block)) : List PlacedBlock :=
  answers.filterMap fun p => p.2.toOption.map fun block => ⟨p.1, block⟩

section
variable (h : Height) (answers : List (Height × Except Error Block))

@[simp] theorem fetchedBlocks_nil : fetchedBlocks [] = [] := rfl

@[simp] theorem fetchedBlocks_ok (block : Block) :
    fetchedBlocks ((h, .ok block) :: answers) = ⟨h, block⟩ :: fetchedBlocks answers := rfl

@[simp] theorem fetchedBlocks_error (e : Error) :
    fetchedBlocks ((h, .error e) :: answers) = fetchedBlocks answers := rfl

end

def bestAfter (best : Stamp) (blocks : List PlacedBlock) : Stamp :=
  (blocks.map PlacedBlock.stamp).getLast?.getD best

@[simp] theorem bestAfter_nil (best : Stamp) : bestAfter best [] = best := rfl

theorem bestAfter_cons (best : Stamp) (b : PlacedBlock) (rest : List PlacedBlock) :
    bestAfter best (b :: rest) = bestAfter b.stamp rest := by
  rw [bestAfter, bestAfter, List.map_cons, List.getLast?_cons, Option.getD_some]

/-- Where a call to catch up stands that set out from `start` for `missing` blocks up to `target`,
by the answers that it has got: it waits for the next block, or it has returned the best block when
all were fetched, or the error of the first fetch that failed. The subscriber has been told `news` of
blocks, and where the call began only when it got anywhere and to its end. -/
inductive CallStanding (start : Stamp) (target : Height) (missing : Nat)
    (answers : List (Height × Except Error Block)) (returns : List (Except Error Stamp))
    (news : List Notification) (y : Client) : Prop where
  | underWay (hreturns : returns = []) (hall : (fetchedBlocks answers).length = answers.length)
      (hmissing : answers.length < missing)
      (hwaits : ∃ next, y.catchUp = some ⟨start, next, target, none⟩ ∧ y.best.Precedes next)
      (hnews : y.blockNews = news)
  | finished (hreturns : returns = [.ok y.best])
      (hall : (fetchedBlocks answers).length = answers.length)
      (hmissing : answers.length = missing) (hidle : y.catchUp = none)
      (hnews : y.blockNews = news ++ if missing = 0 then [] else [.caughtUp start y.best])
  | failed (h : Height) (e : Error) (earlier : List (Height × Except Error Block))
      (hanswers : answers = earlier ++ [(h, .error e)]) (hreturns : returns = [.error e])
      (hall : (fetchedBlocks earlier).length = earlier.length)
      (hmissing : earlier.length < missing) (hidle : y.catchUp = none)
      (hnews : y.blockNews = news)

namespace CallStanding

variable {start : Stamp} {target h : Height} {missing : Nat} {block : Block}
  {answers : List (Height × Except Error Block)} {returns : List (Except Error Stamp)}
  {news : List Notification} {y : Client}

/-- One more block, fetched before all the others. -/
theorem cons_ok (hrest : CallStanding start target missing answers returns news y)
    (hpos : 0 < missing) :
    CallStanding start target (missing + 1) ((h, .ok block) :: answers) returns news y := by
  cases hrest with
  | underWay hreturns hall hmissing hwaits hnews =>
    exact .underWay hreturns (by simp [hall]) (by simpa using hmissing) hwaits hnews
  | finished hreturns hall hmissing hidle hnews =>
    refine .finished hreturns (by simp [hall]) (by simp [hmissing]) hidle ?_
    rw [hnews, if_neg (by omega), if_neg (by omega)]
  | failed k e earlier hanswers hreturns hall hmissing hidle hnews =>
    refine .failed k e ((h, .ok block) :: earlier) ?_ hreturns (by simp [hall])
      (by simpa using hmissing) hidle hnews
    rw [hanswers, List.cons_append]

end CallStanding

/-- What a call to catch up returns, if it returns at this point: the error that broke it off, or
the best block when nothing is being fetched any more. -/
def Client.verdict (after : Client) : Option Error → List (Except Error Stamp)
  | some e => [.error e]
  | none => if after.catchUp.isSome then [] else [.ok after.best]

theorem Client.SameCourse.started (x : Client) : SameCourse x x.started := by
  unfold Client.started Client.start
  cases x.phase with
  | fresh =>
    have hrunning : SameCourse x { x with phase := .running } := .of_eq rfl rfl rfl
    exact hrunning.trans (.notify _ rfl)
  | running => exact .refl x
  | stopped => exact .refl x

namespace Connection

/-- What a step returns to the subscriber of the client at `slot` that has called for the missing
blocks. A catch-up that the handler has begun on its own returns nothing. -/
def returnsAt (slot : Nat) (c : Connection) (a : Action) : List (Except Error Stamp) :=
  match c.hub.clients[slot]?, a with
  | some x, .catchUp n =>
    if n = slot ∧ x.catchUp.isNone then
      (x.startCatchUp c.hub.watermark.height none).verdict none
    else []
  | some x, .answerClient n source =>
    if n = slot ∧ x.catchUp.any fun u => u.cause.isNone then
      (x.resumeCatchUp (answerTo source x)).1.verdict (x.resumeCatchUp (answerTo source x)).2
    else []
  | _, _ => []

/-- What the client at `slot` tells of the block that a step brings it. -/
def fetchNotesAt (slot : Nat) (c : Connection) (a : Action) : List Notification :=
  match c.hub.clients[slot]? with
  | some x => (fetchedBlocks (c.answersAt slot a)).flatMap x.blockNotes
  | none => []

section
variable {slot : Nat} {c : Connection} {a : Action} {x y : Client}

theorem answersAt_of_catchUp (source : Source) {u : CatchUp} (hx : c.hub.clients[slot]? = some x)
    (hu : x.catchUp = some u) :
    c.answersAt slot (.answerClient slot source) = [(u.next, source.block u.next)] := by
  simp [answersAt, hx, hu]

theorem answersAt_of_ne (ha : ∀ source, a ≠ .answerClient slot source) :
    c.answersAt slot a = [] := by
  cases a with
  | answerClient n source =>
    refine if_neg ?_
    rintro rfl
    exact ha source rfl
  | _ => rfl

theorem fetchNotesAt_eq (hx : c.hub.clients[slot]? = some x) :
    c.fetchNotesAt slot a = (fetchedBlocks (c.answersAt slot a)).flatMap x.blockNotes := by
  rw [fetchNotesAt, hx]

/-- While blocks are being fetched, only an answer makes a call return. -/
theorem returnsAt_of_ne (hx : c.hub.clients[slot]? = some x) (hbusy : x.catchUp.isSome = true)
    (ha : ∀ source, a ≠ .answerClient slot source) : c.returnsAt slot a = [] := by
  have hnone : x.catchUp.isNone = false := by simpa using hbusy
  cases a with
  | catchUp n => simp [returnsAt, hx, hnone]
  | answerClient n source =>
    have hn : n ≠ slot := by
      rintro rfl
      exact ha source rfl
    simp [returnsAt, hx, hn]
  | _ => simp [returnsAt, hx]

theorem getElem?_catchUp (hx : c.hub.clients[slot]? = some x) :
    (c.step (.catchUp slot)).hub.clients[slot]? = some (x.askedUpTo c.hub.watermark) := by
  rw [clients_of_subject (a := .catchUp slot) rfl, Hub.modifyClient, List.getElem?_modify_eq, hx]
  rfl

theorem returnsAt_catchUp (hx : c.hub.clients[slot]? = some x) (hidle : x.catchUp = none) :
    c.returnsAt slot (.catchUp slot) =
      (x.startCatchUp c.hub.watermark.height none).verdict none := by
  simp [returnsAt, hx, hidle]

theorem returnsAt_answerClient (source : Source) {u : CatchUp}
    (hx : c.hub.clients[slot]? = some x) (hu : x.catchUp = some u) (hcause : u.cause = none) :
    c.returnsAt slot (.answerClient slot source) =
      (x.resumeCatchUp (source.block u.next)).1.verdict
        (x.resumeCatchUp (source.block u.next)).2 := by
  simp [returnsAt, hx, hu, hcause, answerTo]

/-- A step that brings no block and hands none past the inbox leaves the course of a fetch alone. -/
theorem sameCourse_step (hx : c.hub.clients[slot]? = some x) (hbusy : x.catchUp.isSome = true)
    (hy : (c.step a).hub.clients[slot]? = some y) (hpast : ∀ b, a ≠ .receiveBlock slot b)
    (ha : ∀ source, a ≠ .answerClient slot source) : SameCourse x y := by
  cases effect_of_getElem? hx hy with
  | fed _ heq =>
    obtain ⟨accepted, _, hoffered⟩ := x.offerAll_eq (c.dispatched a)
    rw [heq, hoffered]
    exact .of_eq rfl rfl rfl
  | dismissed _ _ hdismissed =>
    cases hdismissed with
    | kept => exact .refl x
    | withdrawn => exact .of_eq rfl rfl rfl
    | stopped => exact .of_eq rfl rfl rfl
  | operated _ hsubject heq =>
    rw [heq]
    cases a with
    | startClient n => exact .started x
    | catchUp n =>
      simp only [Action.operate, askedUpTo, if_pos hbusy]
      exact .refl x
    | answerClient n source =>
      obtain rfl : n = slot := Option.some.inj hsubject
      exact absurd rfl (ha source)
    | receiveBlock n b =>
      obtain rfl : n = slot := Option.some.inj hsubject
      exact absurd rfl (hpast b)
    | receiveTransaction n t => exact .receiveTransaction x t
    | handle n => exact .handle hbusy
    | _ => exact .of_eq rfl rfl rfl

/-- What a step does to a catch-up of the subscriber that waits for the block at `next`. -/
inductive CallStep (slot : Nat) (c : Connection) (start : Stamp) (next target : Height)
    (x : Client) (a : Action) (y : Client) : Prop where
  | quiet (hcourse : SameCourse x y) (hanswers : c.answersAt slot a = [])
      (hreturns : c.returnsAt slot a = [])
  | failed (e : Error) (hanswers : c.answersAt slot a = [(next, .error e)])
      (hreturns : c.returnsAt slot a = [.error e]) (hy : y = { x with catchUp := none })
  | advanced (block : Block) (hlt : next.toNat < target.toNat)
      (hanswers : c.answersAt slot a = [(next, .ok block)]) (hreturns : c.returnsAt slot a = [])
      (hy : y = { x.applied ⟨next, block⟩ with catchUp := some ⟨start, next + 1, target, none⟩ })
  | finished (block : Block) (hlast : next = target)
      (hanswers : c.answersAt slot a = [(next, .ok block)])
      (hreturns : c.returnsAt slot a = [.ok ⟨next, block.hash⟩])
      (hy : y = ({ x.applied ⟨next, block⟩ with catchUp := none }).notify
        (.caughtUp start ⟨next, block.hash⟩))

theorem callStep_answer {source : Source} {start : Stamp} {next target : Height}
    (hx : c.hub.clients[slot]? = some x) (h : x.WaitsFor start next target)
    (hs : x.isStopped = false)
    (hy : (c.step (.answerClient slot source)).hub.clients[slot]? = some y) :
    c.CallStep slot start next target x (.answerClient slot source) y := by
  have hanswers := answersAt_of_catchUp source hx h.catchUp
  have hreturns := returnsAt_answerClient source hx h.catchUp rfl
  have hafter : y = (x.resumeCatchUp (source.block next)).1 := by
    rw [step_answerClient hx source, answerTo, h.catchUp] at hy
    exact (Option.some.inj hy).symm
  obtain ⟨e, he, hresume⟩ | ⟨block, hblock, hlt, hresume⟩ | ⟨block, hblock, hlast, hresume⟩ :=
    resumeCatchUp_cases h hs (source.block next)
  · rw [hresume] at hreturns hafter
    exact .failed e (by rw [hanswers, he]) hreturns hafter
  · rw [hresume] at hreturns hafter
    exact .advanced block hlt (by rw [hanswers, hblock]) hreturns hafter
  · rw [hresume] at hreturns hafter
    exact .finished block hlast (by rw [hanswers, hblock]) hreturns hafter

theorem call_step {start : Stamp} {next target : Height} (hx : c.hub.clients[slot]? = some x)
    (h : x.WaitsFor start next target) (hy : (c.step a).hub.clients[slot]? = some y)
    (hs : y.isStopped = false) (hpast : ∀ b, a ≠ .receiveBlock slot b) :
    c.CallStep slot start next target x a y := by
  by_cases ha : ∃ source, a = .answerClient slot source
  · obtain ⟨source, rfl⟩ := ha
    exact callStep_answer hx h (running_of_step hx hy hs) hy
  · have hne : ∀ source, a ≠ .answerClient slot source := fun source h => ha ⟨source, h⟩
    have hbusy : x.catchUp.isSome = true := by rw [h.catchUp]; rfl
    exact .quiet (sameCourse_step hx hbusy hy hpast hne) (answersAt_of_ne hne)
      (returnsAt_of_ne hx hbusy hne)

theorem running_of_run {actions : List Action} (hx : c.hub.clients[slot]? = some x)
    (hy : (c.run actions).hub.clients[slot]? = some y) (hs : y.isStopped = false) :
    x.isStopped = false := by
  induction actions generalizing c x with
  | nil =>
    obtain rfl : x = y := Option.some.inj (hx.symm.trans hy)
    exact hs
  | cons a rest ih =>
    obtain ⟨z, hz, _⟩ := c.step_client slot a hx
    exact running_of_step hx hz (ih hz hy)

/-- What gives rise to nothing before the last step is at its last step, or does so in none. -/
theorem trace_dropLast_cons {α : Type} {f : Connection → Action → List α} {rest : List Action}
    (h : c.trace f (a :: rest).dropLast = []) :
    rest = [] ∨ f c a = [] ∧ (c.step a).trace f rest.dropLast = [] := by
  cases rest with
  | nil => exact .inl rfl
  | cons b rest =>
    rw [List.dropLast_cons_cons, trace_cons] at h
    exact .inr (List.append_eq_nil_iff.1 h)

/-- What comes of a call that waits for a block, from the client `x` on, by the time that it is
`y`. -/
structure CallRest (slot : Nat) (c : Connection) (start : Stamp) (target : Height) (x : Client)
    (actions : List Action) (y : Client) : Prop where
  heights : (c.trace (answersAt slot) actions).map (fun p => p.1.toNat) =
    List.range' (x.best.height.toNat + 1) (c.trace (answersAt slot) actions).length
  best : y.best = bestAfter x.best (fetchedBlocks (c.trace (answersAt slot) actions))
  height : y.best.height.toNat =
    x.best.height.toNat + (fetchedBlocks (c.trace (answersAt slot) actions)).length
  standing : CallStanding start target (target.toNat - x.best.height.toNat)
    (c.trace (answersAt slot) actions) (c.trace (returnsAt slot) actions)
    (x.blockNews ++ c.trace (fetchNotesAt slot) actions) y

section
variable {actions : List Action} {start : Stamp} {next target : Height} {z : Client}

/-- A step that leaves the course of the call alone adds nothing to what comes of it. -/
theorem CallRest.quiet (hrest : CallRest slot (c.step a) start target z actions y)
    (hx : c.hub.clients[slot]? = some x) (hbest : z.best = x.best)
    (hnews : z.blockNews = x.blockNews) (hanswers : c.answersAt slot a = [])
    (hreturns : c.returnsAt slot a = []) : CallRest slot c start target x (a :: actions) y := by
  have hnotes : c.fetchNotesAt slot a = [] := by
    rw [fetchNotesAt_eq hx, hanswers]
    rfl
  obtain ⟨hheights, hafter, hheight, hstanding⟩ := hrest
  rw [hbest] at hheights hafter hheight hstanding
  rw [hnews] at hstanding
  refine ⟨?_, ?_, ?_, ?_⟩
  · rw [trace_cons, hanswers]
    exact hheights
  · rw [trace_cons, hanswers]
    exact hafter
  · rw [trace_cons, hanswers]
    exact hheight
  · rw [trace_cons, trace_cons, trace_cons, hanswers, hreturns, hnotes]
    exact hstanding

/-- A block that is fetched comes before all that is fetched later. -/
theorem CallRest.advanced {block : Block}
    (hrest : CallRest slot (c.step a) start target z actions y)
    (hx : c.hub.clients[slot]? = some x) (h : x.WaitsFor start next target)
    (hlt : next.toNat < target.toNat) (hanswers : c.answersAt slot a = [(next, .ok block)])
    (hreturns : c.returnsAt slot a = []) (hz : z = { x.applied ⟨next, block⟩ with
      catchUp := some ⟨start, next + 1, target, none⟩ }) :
    CallRest slot c start target x (a :: actions) y := by
  have hnotes : c.fetchNotesAt slot a = x.blockNotes ⟨next, block⟩ := by
    rw [fetchNotesAt_eq hx, hanswers]
    exact List.append_nil _
  have hnext : next.toNat = x.best.height.toNat + 1 := h.precedes
  have hbestNat : z.best.height.toNat = next.toNat := by
    rw [hz]
    rfl
  have hnews : z.blockNews = x.blockNews ++ x.blockNotes ⟨next, block⟩ := by
    rw [hz]
    exact x.blockNews_applied _
  obtain ⟨hheights, hbest, hheight, hstanding⟩ := hrest
  rw [hbestNat] at hheights hheight hstanding
  refine ⟨?_, ?_, ?_, ?_⟩
  · rw [trace_cons, hanswers, List.singleton_append, List.map_cons, hheights, List.length_cons,
      List.range'_succ, hnext]
  · rw [trace_cons, hanswers, List.singleton_append, fetchedBlocks_ok, bestAfter_cons, hbest, hz]
    rfl
  · rw [trace_cons, hanswers, List.singleton_append, fetchedBlocks_ok, List.length_cons, hheight]
    omega
  · have hmissing : target.toNat - x.best.height.toNat = target.toNat - next.toNat + 1 := by omega
    rw [trace_cons, trace_cons, trace_cons, hanswers, hreturns, hnotes, hmissing,
      ← List.append_assoc, ← hnews]
    exact hstanding.cons_ok (by omega)

/-- A fetch that fails breaks the call off. -/
theorem CallRest.of_failed {e : Error} (hx : c.hub.clients[slot]? = some x)
    (h : x.WaitsFor start next target) (hanswers : c.answersAt slot a = [(next, .error e)])
    (hreturns : c.returnsAt slot a = [.error e]) (hy : y = { x with catchUp := none }) :
    CallRest slot c start target x [a] y := by
  have hnotes : c.fetchNotesAt slot a = [] := by
    rw [fetchNotesAt_eq hx, hanswers]
    rfl
  have hnext : next.toNat = x.best.height.toNat + 1 := h.precedes
  have hle := h.next_le
  refine ⟨?_, ?_, ?_, ?_⟩
  · rw [trace_cons, hanswers]
    simp [hnext]
  · rw [trace_cons, hanswers, hy]
    rfl
  · rw [trace_cons, hanswers, hy]
    exact rfl
  · rw [trace_cons, trace_cons, trace_cons, hanswers, hreturns, hnotes, hy]
    refine .failed next e [] rfl rfl rfl ?_ rfl (List.append_nil _).symm
    rw [List.length_nil]
    omega

/-- The last block brings the call to its end. -/
theorem CallRest.of_finished {block : Block} (hx : c.hub.clients[slot]? = some x)
    (h : x.WaitsFor start next target) (hlast : next = target)
    (hanswers : c.answersAt slot a = [(next, .ok block)])
    (hreturns : c.returnsAt slot a = [.ok ⟨next, block.hash⟩])
    (hy : y = ({ x.applied ⟨next, block⟩ with catchUp := none }).notify
      (.caughtUp start ⟨next, block.hash⟩)) :
    CallRest slot c start target x [a] y := by
  have hnotes : c.fetchNotesAt slot a = x.blockNotes ⟨next, block⟩ := by
    rw [fetchNotesAt_eq hx, hanswers]
    exact List.append_nil _
  have hnext : next.toNat = x.best.height.toNat + 1 := h.precedes
  have hmissing : target.toNat - x.best.height.toNat = 1 := by
    rw [← hlast]
    omega
  refine ⟨?_, ?_, ?_, ?_⟩
  · rw [trace_cons, hanswers]
    simp [hnext]
  · rw [trace_cons, hanswers, hy]
    rfl
  · rw [trace_cons, hanswers, hy]
    exact hnext
  · rw [trace_cons, trace_cons, trace_cons, hanswers, hreturns, hnotes, hmissing, hy]
    refine .finished rfl rfl rfl rfl ?_
    rw [blockNews_notify _ rfl, trace_nil, List.append_nil, if_neg Nat.one_ne_zero]
    exact congrArg (· ++ [_]) (x.blockNews_applied ⟨next, block⟩)

/-- By induction on the steps: what is no answer leaves the course of the call alone, and an answer
brings the block that comes next. -/
theorem callRest_of_waiting (hx : c.hub.clients[slot]? = some x)
    (h : x.WaitsFor start next target) (hpast : ∀ b, .receiveBlock slot b ∉ actions)
    (hcall : c.trace (returnsAt slot) actions.dropLast = [])
    (hy : (c.run actions).hub.clients[slot]? = some y) (hs : y.isStopped = false) :
    CallRest slot c start target x actions y := by
  induction actions generalizing c x next with
  | nil =>
    obtain rfl : x = y := Option.some.inj (hx.symm.trans hy)
    have hnext : next.toNat = x.best.height.toNat + 1 := h.precedes
    have hle := h.next_le
    refine ⟨rfl, rfl, rfl, .underWay rfl rfl ?_ ⟨next, h.catchUp, h.precedes⟩ (List.append_nil _).symm⟩
    rw [trace_nil, List.length_nil]
    omega
  | cons a rest ih =>
    obtain ⟨z, hz, _⟩ := c.step_client slot a hx
    have hrest : ∀ b, .receiveBlock slot b ∉ rest :=
      fun b hb => hpast b (List.mem_cons_of_mem _ hb)
    have hhead : ∀ b, a ≠ .receiveBlock slot b := by
      rintro b rfl
      exact hpast b List.mem_cons_self
    have hlater : (c.step a).trace (returnsAt slot) rest.dropLast = [] := by
      obtain rfl | ⟨_, hlater⟩ := trace_dropLast_cons hcall
      · rfl
      · exact hlater
    -- The call returns in its last step only.
    have hlast (hreturns : c.returnsAt slot a ≠ []) : rest = [] ∧ z = y := by
      obtain rfl | ⟨hnone, _⟩ := trace_dropLast_cons hcall
      · exact ⟨rfl, Option.some.inj (hz.symm.trans hy)⟩
      · exact absurd hnone hreturns
    cases call_step hx h hz (running_of_run hz hy hs) hhead with
    | quiet hcourse hanswers hreturns =>
      exact (ih hz (h.congr hcourse) hrest hlater hy).quiet hx hcourse.best hcourse.blockNews
        hanswers hreturns
    | failed e hanswers hreturns hafter =>
      obtain ⟨rfl, rfl⟩ := hlast (by rw [hreturns]; exact List.cons_ne_nil _ _)
      exact .of_failed hx h hanswers hreturns hafter
    | advanced block hlt hanswers hreturns hafter =>
      have hwaits : z.WaitsFor start (next + 1) target := hafter ▸ h.advance hlt block
      exact (ih hz hwaits hrest hlater hy).advanced hx h hlt hanswers hreturns hafter
    | finished block hend hanswers hreturns hafter =>
      obtain ⟨rfl, rfl⟩ := hlast (by rw [hreturns]; exact List.cons_ne_nil _ _)
      exact .of_finished hx h hend hanswers hreturns hafter

/-- What comes of a call, from the step in which the subscriber makes it. -/
theorem callRest_of_call (hx : c.hub.clients[slot]? = some x) (hidle : x.catchUp = none)
    (hpast : ∀ b, .receiveBlock slot b ∉ actions)
    (hcall : c.trace (returnsAt slot) (.catchUp slot :: actions).dropLast = [])
    (hy : (c.run (.catchUp slot :: actions)).hub.clients[slot]? = some y)
    (hs : y.isStopped = false) :
    CallRest slot c x.best c.hub.watermark.height x (.catchUp slot :: actions) y := by
  have hstep : (c.step (.catchUp slot)).hub.clients[slot]? =
      some (x.startCatchUp c.hub.watermark.height none) := by
    rw [getElem?_catchUp hx, askedUpTo, hidle]
    rfl
  have hanswers : c.answersAt slot (.catchUp slot) = [] := rfl
  have hreturns := returnsAt_catchUp hx hidle
  have hrunning : x.isStopped = false := running_of_run hx hy hs
  obtain ⟨hlt, hwaits, hstart⟩ | ⟨hle, hstart⟩ :=
    startCatchUp_call_cases hidle hrunning c.hub.watermark.height
  · have hnone : c.returnsAt slot (.catchUp slot) = [] := by
      rw [hreturns, hstart]
      rfl
    have hlater : (c.step (.catchUp slot)).trace (returnsAt slot) actions.dropLast = [] := by
      obtain rfl | ⟨_, hlater⟩ := trace_dropLast_cons hcall
      · rfl
      · exact hlater
    refine (callRest_of_waiting hstep hwaits hpast hlater hy hs).quiet hx ?_ ?_
      hanswers hnone
    · rw [hstart]
    · rw [hstart]
      rfl
  · rw [hstart] at hstep hreturns
    have hok : c.returnsAt slot (.catchUp slot) = [.ok x.best] := by
      rw [hreturns, verdict, hidle]
      rfl
    obtain rfl | ⟨hnone, _⟩ := trace_dropLast_cons hcall
    · obtain rfl : x = y := Option.some.inj (hstep.symm.trans hy)
      have hnotes : c.fetchNotesAt slot (.catchUp slot) = [] := by
        rw [fetchNotesAt_eq hx, hanswers]
        rfl
      refine ⟨rfl, rfl, rfl, ?_⟩
      rw [trace_cons, trace_cons, trace_cons, hanswers, hok, hnotes]
      refine .finished rfl rfl (by rw [trace_nil]; simp; omega) hidle ?_
      rw [if_pos (by omega)]
      simp
    · rw [hok] at hnone
      cases hnone

theorem trace_eq_nil_of_initial {α : Type} {f : Connection → Action → List α} {l m : List Action}
    (hl : l <+: m) (hm : c.trace f m = []) : c.trace f l = [] := by
  obtain ⟨later, rfl⟩ := hl
  rw [trace_append] at hm
  exact (List.append_eq_nil_iff.1 hm).1

/-- As long as a call has not returned, the client waits for the next block. -/
theorem waitsFor_of_call (hx : c.hub.clients[slot]? = some x) (hidle : x.catchUp = none)
    (hpast : ∀ b, .receiveBlock slot b ∉ actions)
    (hreturns : c.trace (returnsAt slot) (.catchUp slot :: actions) = [])
    (hz : (c.run (.catchUp slot :: actions)).hub.clients[slot]? = some z)
    (hs : z.isStopped = false) : ∃ next, z.WaitsFor x.best next c.hub.watermark.height := by
  obtain ⟨_, _, hheight, hstanding⟩ := callRest_of_call hx hidle hpast
    (trace_eq_nil_of_initial (List.dropLast_prefix _) hreturns) hz hs
  cases hstanding with
  | underWay _ hall hmissing hwaits =>
    obtain ⟨next, hcatchUp, hnext⟩ := hwaits
    have hnextNat : next.toNat = z.best.height.toNat + 1 := hnext
    rw [hall] at hheight
    exact ⟨next, hcatchUp, hnext, by omega, by omega⟩
  | finished hsome =>
    rw [hreturns] at hsome
    cases hsome
  | failed k e _ _ hsome =>
    rw [hreturns] at hsome
    cases hsome

/-- A block that a call has fetched is applied and told of in the same step. -/
theorem fetched_is_applied {earlier later : List Action} {source : Source} {h : Height}
    {block : Block} (hx : c.hub.clients[slot]? = some x) (hidle : x.catchUp = none)
    (hpast : ∀ b, .receiveBlock slot b ∉ actions)
    (hcall : c.trace (returnsAt slot) (.catchUp slot :: actions).dropLast = [])
    (hsplit : .catchUp slot :: actions = earlier ++ .answerClient slot source :: later)
    (hz : (c.run earlier).hub.clients[slot]? = some z) (hs : z.isStopped = false)
    (hanswer : (c.run earlier).answersAt slot (.answerClient slot source) = [(h, .ok block)]) :
    ∃ y, (c.run (earlier ++ [.answerClient slot source])).hub.clients[slot]? = some y ∧
      y.best = ⟨h, block.hash⟩ ∧ y.watch = (z.watch.filterBlock block).1 ∧
      y.mirror = z.mirror.eraseAll block.txids ∧
      z.sent ++ z.blockNotes ⟨h, block⟩ <+: y.sent := by
  obtain ⟨rest, rfl⟩ : ∃ rest, earlier = .catchUp slot :: rest := by
    cases earlier with
    | nil => cases hsplit
    | cons a rest =>
      cases hsplit
      exact ⟨rest, rfl⟩
  rw [hsplit, List.dropLast_append_of_ne_nil (List.cons_ne_nil _ _)] at hcall
  have hactions : actions = rest ++ .answerClient slot source :: later := by
    simpa using hsplit
  have hpast' : ∀ b, .receiveBlock slot b ∉ rest :=
    fun b hb => hpast b (by rw [hactions]; exact List.mem_append_left _ hb)
  obtain ⟨next, hwaits⟩ := waitsFor_of_call hx hidle hpast'
    (trace_eq_nil_of_initial (List.prefix_append _ _) hcall) hz hs
  obtain ⟨y, hy, _⟩ := (c.run (.catchUp slot :: rest)).step_client slot
    (.answerClient slot source) hz
  refine ⟨y, by rw [run_append]; exact hy, ?_⟩
  cases callStep_answer hz hwaits hs hy with
  | quiet _ hanswers =>
    rw [hanswer] at hanswers
    cases hanswers
  | failed e hanswers =>
    rw [hanswer] at hanswers
    cases hanswers
  | advanced block' _ hanswers _ hafter =>
    rw [hanswer] at hanswers
    cases hanswers
    rw [hafter, ← applied_sent]
    exact ⟨rfl, rfl, rfl, List.prefix_rfl⟩
  | finished block' _ hanswers _ hafter =>
    rw [hanswer] at hanswers
    cases hanswers
    rw [hafter, ← applied_sent]
    exact ⟨rfl, rfl, rfl, List.prefix_append _ _⟩

end

end

end Connection

end ChainFeed
