import ChainFeed.Proofs.Run.CatchUpCall

/-!
# Catching up again

A call to catch up that fails keeps what it has applied, so the next one goes on from there. A series
of calls with one chain and one watermark comes to the same whichever fetches fail in between, as
soon as one of the calls returns the best block.
-/

namespace ChainFeed

/-- Of what bears on the client at `slot`, only calls to catch up and answers of a node that has the
blocks of `chain`, as far as it answers. -/
def Action.Retries (chain : Height → Block) (slot : Nat) (a : Action) : Prop :=
  a.subject = some slot → a = .catchUp slot ∨
    ∃ source : Source, a = .answerClient slot source ∧
      ∀ h block, source.block h = .ok block → block = chain h

namespace Client

/-- The client as it is out of the fan-out. -/
def aside (c : Client) : Client := { c with registered := false }

/-- How far the client is from `x` on, whose subscriber asks for the blocks of `chain` up to
`target`. -/
structure OnCatchUp (chain : Height → Block) (target : Height) (x y : Client) : Prop where
  follows : Follows chain x.aside y.aside
  best_le : y.best.height.toNat ≤ max x.best.height.toNat target.toNat
  waits : ∀ u, y.catchUp = some u → ∃ start next, y.WaitsFor start next target

section
variable {chain : Height → Block} {target next : Height} {start : Stamp} {x y z : Client}

theorem OnCatchUp.refl (hidle : x.catchUp = none) : OnCatchUp chain target x x := by
  refine ⟨⟨0, rfl, rfl⟩, Nat.le_max_left _ _, fun u hu => ?_⟩
  rw [hidle] at hu
  cases hu

theorem OnCatchUp.congr (h : OnCatchUp chain target x y)
    (hout : z.aside.outcome = y.aside.outcome) (hbest : z.best = y.best)
    (hcatchUp : z.catchUp = y.catchUp) : OnCatchUp chain target x z := by
  obtain ⟨k, hk, hheight⟩ := h.follows
  refine ⟨⟨k, hout.trans hk, ?_⟩, hbest ▸ h.best_le, fun u hu => ?_⟩
  · change z.best.height.toNat = _
    rw [hbest]
    exact hheight
  · obtain ⟨start, next, hwaits⟩ := h.waits u (hcatchUp.symm.trans hu)
    exact ⟨start, next, hcatchUp.trans hwaits.catchUp, hbest ▸ hwaits.precedes, hwaits.next_le,
      hbest ▸ hwaits.start_le⟩

/-- A fetched block is the next one of the chain, and no later than the last that is asked for. -/
theorem OnCatchUp.applied (h : OnCatchUp chain target x y) (hwaits : y.WaitsFor start next target) :
    Follows chain x.aside (y.applied ⟨next, chain next⟩).aside ∧
      next.toNat ≤ max x.best.height.toNat target.toNat :=
  ⟨h.follows.applied (b := ⟨next, chain next⟩) hwaits.precedes rfl,
    Nat.le_trans hwaits.next_le (Nat.le_max_right _ _)⟩

/-- When all has been fetched, nothing depends any more on how. -/
theorem OnCatchUp.outcome_eq (h : OnCatchUp chain target x y)
    (hend : target.toNat ≤ y.best.height.toNat) :
    y.aside.outcome =
      (follow chain)^[target.toNat - x.best.height.toNat] x.aside.outcome := by
  obtain ⟨k, hk, hheight⟩ := h.follows
  have hbest : y.best.height.toNat = x.best.height.toNat + k := hheight
  have hle := h.best_le
  rw [hk]
  congr 1
  omega

end

end Client

open Client

namespace Connection

/-- A series of calls to catch up, one of which has returned the best block: at one watermark and
with one chain, whatever else happens in the connection, and with any fetches failing. -/
structure CaughtUpBy (chain : Height → Block) (slot : Nat) (c : Connection) (actions : List Action)
    (y : Client) : Prop where
  retries : ∀ a ∈ actions, a.Retries chain slot
  watermark : ∀ earlier, earlier <+: actions → (c.run earlier).hub.watermark = c.hub.watermark
  client : (c.run actions).hub.clients[slot]? = some y
  running : y.isStopped = false
  returned : ∃ best, .ok best ∈ c.trace (returnsAt slot) actions

section
variable {chain : Height → Block} {slot : Nat} {c : Connection} {a : Action} {x y z : Client}

/-- A step that is about something else returns nothing to the subscriber. -/
theorem returnsAt_of_subject (ha : a.subject ≠ some slot) : c.returnsAt slot a = [] := by
  cases hx : c.hub.clients[slot]? with
  | none => simp only [returnsAt, hx]
  | some x =>
    cases a with
    | catchUp n =>
      have hn : n ≠ slot := fun hn => ha (congrArg some hn)
      simp [returnsAt, hx, hn]
    | answerClient n source =>
      have hn : n ≠ slot := fun hn => ha (congrArg some hn)
      simp [returnsAt, hx, hn]
    | _ => simp [returnsAt, hx]

/-- What a step of a series of calls does to a client on its way: it goes no way back, and when the
call returns the best block, that is at the watermark or above. -/
structure RetryStep (chain : Height → Block) (slot : Nat) (c : Connection) (x z : Client)
    (a : Action) (y : Client) : Prop where
  onCatchUp : OnCatchUp chain c.hub.watermark.height x y
  best_le : z.best.height.toNat ≤ y.best.height.toNat
  returned : ∀ best, .ok best ∈ c.returnsAt slot a →
    c.hub.watermark.height.toNat ≤ y.best.height.toNat

theorem RetryStep.of_silent (h : OnCatchUp chain c.hub.watermark.height x y)
    (hle : z.best.height.toNat ≤ y.best.height.toNat) (hreturns : c.returnsAt slot a = []) :
    c.RetryStep chain slot x z a y := by
  refine ⟨h, hle, fun best hbest => ?_⟩
  rw [hreturns] at hbest
  cases hbest

theorem retryStep_catchUp (hz : c.hub.clients[slot]? = some z) (hs : z.isStopped = false)
    (h : OnCatchUp chain c.hub.watermark.height x z) :
    c.RetryStep chain slot x z (.catchUp slot) (z.askedUpTo c.hub.watermark) := by
  cases hu : z.catchUp with
  | some u =>
    have hbusy : z.catchUp.isSome = true := by rw [hu]; rfl
    rw [askedUpTo, if_pos hbusy]
    exact .of_silent h (Nat.le_refl _) (returnsAt_of_ne hz hbusy (by rintro _ ⟨⟩))
  | none =>
    have hasked : z.askedUpTo c.hub.watermark = z.startCatchUp c.hub.watermark.height none := by
      rw [askedUpTo, hu]
      rfl
    have hreturns := returnsAt_catchUp hz hu
    rw [hasked]
    obtain ⟨hlt, hwaits, hstart⟩ | ⟨hle, hstart⟩ :=
      startCatchUp_call_cases hu hs c.hub.watermark.height
    · rw [hstart] at hwaits hreturns ⊢
      exact .of_silent ⟨h.follows, h.best_le, fun _ _ => ⟨_, _, hwaits⟩⟩ (Nat.le_refl _) hreturns
    · rw [hstart]
      exact ⟨h, Nat.le_refl _, fun _ _ => hle⟩

theorem retryStep_answer {source : Source} (hz : c.hub.clients[slot]? = some z)
    (hs : z.isStopped = false) (hsource : ∀ k block, source.block k = .ok block → block = chain k)
    (h : OnCatchUp chain c.hub.watermark.height x z)
    (hy : (c.step (.answerClient slot source)).hub.clients[slot]? = some y) :
    c.RetryStep chain slot x z (.answerClient slot source) y := by
  cases hu : z.catchUp with
  | none =>
    obtain rfl : z = y := by
      rw [step_answerClient hz source, resumeCatchUp_of_none hu] at hy
      exact Option.some.inj hy
    exact .of_silent h (Nat.le_refl _) (by simp [returnsAt, hz, hu])
  | some u =>
    obtain ⟨start, next, hwaits⟩ := h.waits u hu
    have hanswer := answersAt_of_catchUp source hz hwaits.catchUp
    have hchain {block : Block} (hanswers : c.answersAt slot (.answerClient slot source) =
        [(next, .ok block)]) : block = chain next := by
      rw [hanswer] at hanswers
      exact hsource next block (by simpa using hanswers)
    have hnext : next.toNat = z.best.height.toNat + 1 := hwaits.precedes
    obtain ⟨hfollows, hle⟩ := h.applied hwaits
    cases callStep_answer hz hwaits hs hy with
    | quiet _ hanswers =>
      rw [hanswer] at hanswers
      cases hanswers
    | failed e _ hreturns hafter =>
      subst hafter
      refine ⟨⟨h.follows, h.best_le, by rintro _ ⟨⟩⟩, Nat.le_refl _, fun best hbest => ?_⟩
      rw [hreturns] at hbest
      cases List.mem_singleton.1 hbest
    | advanced block hlt hanswers hreturns hafter =>
      obtain rfl := hchain hanswers
      subst hafter
      refine .of_silent ⟨hfollows, hle, fun _ _ => ⟨_, _, hwaits.advance hlt _⟩⟩ ?_ hreturns
      change z.best.height.toNat ≤ next.toNat
      omega
    | finished block hlast hanswers _ hafter =>
      obtain rfl := hchain hanswers
      subst hafter
      refine ⟨⟨?_, hle, by rintro _ ⟨⟩⟩, ?_, fun _ _ => ?_⟩
      · obtain ⟨k, hk, hheight⟩ := hfollows
        exact ⟨k, (outcome_notify _ rfl).trans hk, hheight⟩
      · change z.best.height.toNat ≤ next.toNat
        omega
      · rw [← hlast]
        exact Nat.le_refl _

theorem retry_step (hz : c.hub.clients[slot]? = some z)
    (hy : (c.step a).hub.clients[slot]? = some y) (hs : y.isStopped = false)
    (ha : a.Retries chain slot) (h : OnCatchUp chain c.hub.watermark.height x z) :
    c.RetryStep chain slot x z a y := by
  have hrunning := running_of_step hz hy hs
  cases effect_of_getElem? hz hy with
  | fed hfeed heq =>
    obtain ⟨accepted, _, hoffered⟩ := z.offerAll_eq (c.dispatched a)
    rw [heq, hoffered]
    refine .of_silent (h.congr rfl rfl rfl) (Nat.le_refl _) (returnsAt_of_subject ?_)
    rw [Action.subject_of_feed hfeed]
    exact nofun
  | dismissed _ hsubject hdismissed =>
    have hreturns := returnsAt_of_subject (c := c) hsubject
    cases hdismissed with
    | kept => exact .of_silent h (Nat.le_refl _) hreturns
    | withdrawn => exact .of_silent (h.congr rfl rfl rfl) (Nat.le_refl _) hreturns
    | stopped => cases hs
  | operated _ hsubject heq =>
    obtain rfl | ⟨source, rfl, hsource⟩ := ha hsubject
    · rw [heq]
      exact retryStep_catchUp hz hrunning h
    · exact retryStep_answer hz hrunning hsource h hy

/-- A series of calls keeps to the chain, and has all of it up to the watermark once a call has
returned the best block. -/
theorem onCatchUp_run {actions : List Action} {w : Stamp} (hz : c.hub.clients[slot]? = some z)
    (hy : (c.run actions).hub.clients[slot]? = some y) (hs : y.isStopped = false)
    (hall : ∀ a ∈ actions, a.Retries chain slot)
    (hw : ∀ earlier, earlier <+: actions → (c.run earlier).hub.watermark = w)
    (h : OnCatchUp chain w.height x z) :
    OnCatchUp chain w.height x y ∧ z.best.height.toNat ≤ y.best.height.toNat ∧
      ∀ best, .ok best ∈ c.trace (returnsAt slot) actions →
        w.height.toNat ≤ y.best.height.toNat := by
  induction actions generalizing c z with
  | nil =>
    obtain rfl : z = y := Option.some.inj (hz.symm.trans hy)
    exact ⟨h, Nat.le_refl _, fun _ hbest => nomatch hbest⟩
  | cons a rest ih =>
    obtain ⟨d, hd, _⟩ := c.step_client slot a hz
    obtain rfl : c.hub.watermark = w := hw [] List.nil_prefix
    obtain ⟨hon, hle, hreturned⟩ := retry_step hz hd (running_of_run hd hy hs)
      (hall a List.mem_cons_self) h
    obtain ⟨hon', hle', hreturned'⟩ := ih hd hy (fun b hb => hall b (List.mem_cons_of_mem _ hb))
      (fun earlier he => hw (a :: earlier) (List.cons_prefix_cons.2 ⟨rfl, he⟩)) hon
    refine ⟨hon', Nat.le_trans hle hle', fun best hbest => ?_⟩
    rw [trace_cons, List.mem_append] at hbest
    obtain hbest | hbest := hbest
    · exact Nat.le_trans (hreturned best hbest) hle'
    · exact hreturned' best hbest

theorem CaughtUpBy.outcome_eq {actions : List Action} (h : c.CaughtUpBy chain slot actions y)
    (hx : c.hub.clients[slot]? = some x) (hidle : x.catchUp = none) : y.aside.outcome =
      (follow chain)^[c.hub.watermark.height.toNat - x.best.height.toNat] x.aside.outcome := by
  obtain ⟨best, hbest⟩ := h.returned
  obtain ⟨hon, _, hreturned⟩ := onCatchUp_run hx h.client h.running h.retries h.watermark
    (.refl hidle)
  exact hon.outcome_eq (hreturned best hbest)

end

/-- A call to catch up of a client that is not stopped meanwhile, at any point up to its return: the
heights above the best block have been asked for one after the other, each once; the best block is
the last one that was fetched, and each has been told of before the next was asked for, with no gap
found. It waits for the next block, or has returned the best block, at the watermark or above, with
the end of the catch-up told if there was anything to fetch, or it has returned the error of the
fetch that failed. And any two series of such calls with one chain and watermark, and with whatever
fetches failing before one that succeeds, come to the same. -/
theorem catch_up_is_ordered_and_resumable (c : Connection) (slot : Nat) (x : Client)
    (hx : c.hub.clients[slot]? = some x) (hidle : x.catchUp = none) :
    (∀ (actions : List Action) (y : Client), (∀ b, .receiveBlock slot b ∉ actions) →
      let call := .catchUp slot :: actions
      let target := c.hub.watermark.height
      let answers := c.trace (answersAt slot) call
      let returns := c.trace (returnsAt slot) call
      c.trace (returnsAt slot) call.dropLast = [] →
      (c.run call).hub.clients[slot]? = some y → y.isStopped = false →
      answers.map (fun p => p.1.toNat) =
          List.range' (x.best.height.toNat + 1) answers.length ∧
        y.best = bestAfter x.best (fetchedBlocks answers) ∧
        CallStanding x.best target (target.toNat - x.best.height.toNat) answers returns
          (x.blockNews ++ c.trace (fetchNotesAt slot) call) y ∧
        (∀ best, .ok best ∈ returns →
          best.height.toNat = max x.best.height.toNat target.toNat) ∧
        ∀ (earlier later : List Action) (source : Source) (z : Client) (h : Height) (block : Block),
          call = earlier ++ .answerClient slot source :: later →
          (c.run earlier).hub.clients[slot]? = some z →
          (c.run earlier).answersAt slot (.answerClient slot source) = [(h, .ok block)] →
          ∃ z', (c.run (earlier ++ [.answerClient slot source])).hub.clients[slot]? = some z' ∧
            z'.best = ⟨h, block.hash⟩ ∧ z'.watch = (z.watch.filterBlock block).1 ∧
            z'.mirror = z.mirror.eraseAll block.txids ∧
            z.sent ++ z.blockNotes ⟨h, block⟩ <+: z'.sent) ∧
      ∀ (chain : Height → Block) (actions actions' : List Action) (y y' : Client),
        c.CaughtUpBy chain slot actions y → c.CaughtUpBy chain slot actions' y' →
        y.best = y'.best ∧ y.watch = y'.watch ∧ y.mirror = y'.mirror ∧
          y.sent.filter (fun n => !n.isRecovery) = y'.sent.filter fun n => !n.isRecovery := by
  refine ⟨fun actions y hpast => ?_, fun chain actions actions' y y' hy hy' => ?_⟩
  · intro call target answers returns hcall hy hs
    obtain ⟨hheights, hbest, hheight, hstanding⟩ := callRest_of_call hx hidle hpast hcall hy hs
    refine ⟨hheights, hbest, hstanding, fun best hreturned => ?_, ?_⟩
    · have hstanding' : CallStanding x.best target (target.toNat - x.best.height.toNat) answers
          returns _ y := hstanding
      cases hstanding' with
      | underWay hreturns =>
        rw [hreturns] at hreturned
        cases hreturned
      | finished hreturns hall hmissing =>
        rw [hreturns] at hreturned
        cases List.mem_singleton.1 hreturned
        rw [hheight, hall, hmissing]
        omega
      | failed k e _ _ hreturns =>
        rw [hreturns] at hreturned
        cases List.mem_singleton.1 hreturned
    · intro earlier later source z h block hsplit hz hanswer
      have hy' : ((c.run earlier).run (.answerClient slot source :: later)).hub.clients[slot]? =
          some y := by
        rw [← run_append, ← hsplit]
        exact hy
      exact fetched_is_applied hx hidle hpast hcall hsplit hz (running_of_run hz hy' hs) hanswer
  · have hout : y.aside.outcome = y'.aside.outcome :=
      (hy.outcome_eq hx hidle).trans (hy'.outcome_eq hx hidle).symm
    have hbest := congrArg Client.best hout
    have hwatch := congrArg Client.watch hout
    have hmirror := congrArg Client.mirror hout
    have hsent := congrArg Client.sent hout
    exact ⟨hbest, hwatch, hmirror, hsent⟩

/-- Without a feed nothing raises the watermark. -/
theorem watermark_run_of_no_feed {c : Connection} {actions : List Action}
    (hall : ∀ a ∈ actions, a.isFeed = false) :
    (c.run actions).hub.watermark = c.hub.watermark := by
  induction actions generalizing c with
  | nil => rfl
  | cons a rest ih =>
    exact (ih fun b hb => hall b (List.mem_cons_of_mem _ hb)).trans
      (c.frame_step (hall a List.mem_cons_self)).watermark

/-- A client at height 5 and a watermark at height 8. -/
def laggingSample : Connection :=
  (opened .standard ⟨5, .zero⟩).run [.newClient, .push (.blockConnected ⟨8, .blank⟩)]

/-- The node is gone after the first of the three blocks. -/
def brokenOff : List Action := [.answerClient 0 .sample, .answerClient 0 .silent]

/-- The same, and then a call that fetches the two blocks that are left. -/
def resumedCalls : List Action :=
  .catchUp 0 :: brokenOff ++ [.catchUp 0, .answerClient 0 .sample, .answerClient 0 .sample]

def unbrokenCall : List Action :=
  [.catchUp 0, .answerClient 0 .sample, .answerClient 0 .sample, .answerClient 0 .sample]

theorem broken_call_is_resumed : ∃ x y z z',
    laggingSample.hub.clients[0]? = some x ∧
      (laggingSample.run (.catchUp 0 :: brokenOff)).hub.clients[0]? = some y ∧
      (laggingSample.run resumedCalls).hub.clients[0]? = some z ∧
      (laggingSample.run unbrokenCall).hub.clients[0]? = some z' ∧
      y.best = bestAfter x.best [⟨6, .blank⟩] ∧ z.best = z'.best ∧
      z.sent.filter (fun n => !n.isRecovery) = z'.sent.filter fun n => !n.isRecovery := by
  have hclients : laggingSample.hub.clients[0]?.map Client.catchUp = some none ∧
      (laggingSample.run (.catchUp 0 :: brokenOff)).hub.clients[0]?.map Client.isStopped =
        some false ∧
      (laggingSample.run resumedCalls).hub.clients[0]?.map Client.isStopped = some false ∧
      (laggingSample.run unbrokenCall).hub.clients[0]?.map Client.isStopped = some false := by
    decide +kernel
  obtain ⟨hlagging, hbroken, hresumed, hunbroken⟩ := hclients
  obtain ⟨x, hx, hidle⟩ := Option.map_eq_some_iff.1 hlagging
  obtain ⟨y, hy, hys⟩ := Option.map_eq_some_iff.1 hbroken
  obtain ⟨z, hz, hzs⟩ := Option.map_eq_some_iff.1 hresumed
  obtain ⟨z', hz', hzs'⟩ := Option.map_eq_some_iff.1 hunbroken
  have hreturns : laggingSample.trace (returnsAt 0) (.catchUp 0 :: brokenOff).dropLast = [] ∧
      fetchedBlocks (laggingSample.trace (answersAt 0) (.catchUp 0 :: brokenOff)) =
        [⟨6, .blank⟩] ∧
      .ok ⟨8, Block.blank.hash⟩ ∈ laggingSample.trace (returnsAt 0) resumedCalls ∧
      .ok ⟨8, Block.blank.hash⟩ ∈ laggingSample.trace (returnsAt 0) unbrokenCall := by
    decide +kernel
  obtain ⟨hcall, hfetched, hresumed, hunbroken⟩ := hreturns
  have hcatchUp : (Action.catchUp 0).Retries (fun _ => .blank) 0 := fun _ => .inl rfl
  have hanswer : (Action.answerClient 0 .sample).Retries (fun _ => .blank) 0 :=
    fun _ => .inr ⟨_, rfl, fun _ _ hblock => (Except.ok.inj hblock).symm⟩
  have hsilent : (Action.answerClient 0 .silent).Retries (fun _ => .blank) 0 :=
    fun _ => .inr ⟨_, rfl, fun _ _ hblock => nomatch hblock⟩
  have hsample : ∀ a ∈ resumedCalls ++ unbrokenCall, a.isFeed = false ∧
      a.Retries (fun _ => .blank) 0 := by
    simp [resumedCalls, brokenOff, unbrokenCall, Action.isFeed, hcatchUp, hanswer, hsilent]
  have hsteady {actions earlier : List Action} (hsub : actions ⊆ resumedCalls ++ unbrokenCall)
      (he : earlier <+: actions) :
      (laggingSample.run earlier).hub.watermark = laggingSample.hub.watermark :=
    watermark_run_of_no_feed fun a ha => (hsample a (hsub (he.subset ha))).1
  obtain ⟨hone, hseries⟩ := catch_up_is_ordered_and_resumable laggingSample 0 x hx hidle
  obtain ⟨_, hbest, _⟩ := hone brokenOff y (by simp [brokenOff]) hcall hy hys
  have hleft := List.subset_append_left resumedCalls unbrokenCall
  have hright := List.subset_append_right resumedCalls unbrokenCall
  obtain ⟨hequal, _, _, hsent⟩ := hseries (fun _ => .blank) resumedCalls unbrokenCall z z'
    ⟨fun a ha => (hsample a (hleft ha)).2, fun _ he => hsteady hleft he, hz, hzs, _, hresumed⟩
    ⟨fun a ha => (hsample a (hright ha)).2, fun _ he => hsteady hright he, hz', hzs', _, hunbroken⟩
  exact ⟨x, y, z, z', hx, hy, hz, hz', hbest.trans (by rw [hfetched]), hequal, hsent⟩

end Connection

end ChainFeed
