import ChainFeed.Proofs.Data.Numbering
import ChainFeed.Proofs.Run.Shutdown

/-!
# The lifecycle of a connection

Clients are numbered from one in the order in which they are made, and no one in the fan-out has
been stopped. A stop that has completed is final: nobody comes in, and nothing is asked of the
backend any more, neither by the pollers nor by the clients that were told to end.
-/

namespace ChainFeed.Connection

def allocatedAt (c : Connection) : Action → List ClientId
  | .newClient =>
    match c.newClient with
    | .ok (_, id) => [id]
    | .error _ => []
  | _ => []

def idsFrom (first n : Nat) : List ClientId :=
  (List.range' first n).map fun k => ⟨k.toUInt64⟩

/-- Ids are allocated in order. -/
theorem allocated_eq_idsFrom (c : Connection) (actions : List Action) :
    c.trace allocatedAt actions =
      idsFrom (c.allocated + 1) (c.trace allocatedAt actions).length := by
  induction actions generalizing c with
  | nil => rfl
  | cons a rest ih =>
    have hsilent (hnow : c.allocatedAt a = []) (hcount : (c.step a).allocated = c.allocated) :
        c.trace allocatedAt (a :: rest) =
          idsFrom (c.allocated + 1) (c.trace allocatedAt (a :: rest)).length := by
      rw [trace_cons, hnow, List.nil_append, ← hcount]
      exact ih (c.step a)
    cases c.life_step a with
    | made ha hrunning hlife =>
      obtain ⟨hub, hnew⟩ := c.newClient_of_not_stopped hrunning
      have hnow : c.allocatedAt a = [⟨(c.allocated + 1).toUInt64⟩] := by
        rw [ha]
        simp only [allocatedAt, hnew]
        rfl
      have hcount : (c.step a).allocated = c.allocated + 1 := hlife.allocated
      have hrest := ih (c.step a)
      rw [hcount] at hrest
      rw [trace_cons, hnow, List.singleton_append, List.length_cons, idsFrom, List.range'_succ,
        List.map_cons]
      exact congrArg _ hrest
    | same hnew _ hlife =>
      refine hsilent ?_ hlife.allocated
      cases a with
      | newClient => simp [allocatedAt, newClient, hnew rfl]
      | _ => rfl
    | begun ha _ hlife =>
      subst ha
      exact hsilent rfl hlife.allocated
    | ended ha _ hlife =>
      subst ha
      exact hsilent rfl hlife.allocated
    | continued ha hlife =>
      subst ha
      exact hsilent rfl hlife.allocated

theorem idsFrom_toNat {first n : Nat} (h : first + n ≤ 2 ^ 64) :
    (idsFrom first n).map (fun id => id.value.toNat) = List.range' first n := by
  rw [← toNat_wordsFrom h, idsFrom, wordsFrom, List.map_map, List.map_map]
  rfl

/-- Clients get the ids 1, 2, 3 and so on, no one in the fan-out has been stopped, and so no fan-out
skips anyone. Once a stop has completed, whatever happens later, nobody is registered, nothing can
be made or started, those who were registered when the stop began are stopped, and neither they nor
the pollers ask anything of the backend. A stop has completed when the pollers have ended after it;
a second one that overlaps it returns at once, and that is not meant. -/
theorem ids_in_order_and_stop_is_final (config : BackendConfig) (best : Stamp)
    (actions : List Action) :
    let c := opened config best
    let ids := c.trace allocatedAt actions
    (ids.length < 2 ^ 64 →
      ids.map (fun id => id.value.toNat) = List.range' 1 ids.length ∧ ids.Nodup) ∧
    (∀ (slot : Nat) (x : Client), (c.run actions).hub.clients[slot]? = some x →
      x.registered = true → x.isStopped = false) ∧
    (∀ h e, (h, e) ∈ c.trace fanOutsAt actions → (h.dispatch e).2.skipped = 0) ∧
    ((c.run actions).isClosed = true → ∀ later,
      let d := (c.run actions).run later
      d.hub.registeredCount = 0 ∧ d.hasBackend = false ∧
      d.newClient = .error .connectionStopped ∧ d.step .newClient = d ∧ d.start = (d, false) ∧
      (c.run actions).trace pollerCallsAt later = [] ∧
      ∀ before order after (slot : Nat) (x : Client), actions = before ++ .stop order :: after →
        (c.run before).hub.clients[slot]? = some x → x.registered = true →
          (∃ y, d.hub.clients[slot]? = some y ∧ y.isStopped = true) ∧
            (c.run actions).trace (clientCallsAt slot) later = []) := by
  intro c ids
  have hfitted : c.Fitted := .opened config best
  have hwinding : c.Winding := .opened config best
  refine ⟨fun hfew => ?_, fun slot x hx hin => ?_, fun h e hturn => ?_, fun hclosed later => ?_⟩
  · have hids : ids = idsFrom 1 ids.length := c.allocated_eq_idsFrom actions
    have hnumbers : ids.map (fun id => id.value.toNat) = List.range' 1 ids.length := by
      conv_lhs => rw [hids]
      exact idsFrom_toNat (by omega)
    refine ⟨hnumbers, List.Nodup.of_map (fun id => id.value.toNat) ?_⟩
    rw [hnumbers]
    exact List.nodup_range'
  · exact (hfitted.run actions slot x hx).not_stopped hin
  · obtain ⟨before, a, _, _, hat⟩ := mem_trace hturn
    have hall := (hfitted.run before).turns hat
    rw [h.report_dispatch]
    refine List.countP_eq_zero.2 fun x hx hgone => ?_
    obtain ⟨haddressed, hstopped⟩ := Client.isGone_iff.1 hgone
    have hin : x.registered = true := by
      rw [Client.isAddressed, Bool.and_eq_true] at haddressed
      exact haddressed.1
    cases ((hall x hx).not_stopped hin).symm.trans hstopped
  · intro d
    have hd : d.isClosed = true := isClosed_run later hclosed
    have hwound : d.Winding := (hwinding.run actions).run later
    have hshutdown : (c.run actions).hub.shutdown = true := (isClosed_iff.1 hclosed).1
    obtain ⟨hs, _⟩ := hwound.told (isClosed_iff.1 hd).1
    refine ⟨?_, ?_, ?_, d.newClient_of_stopped hs, ?_, pollerCalls_of_closed later hclosed, ?_⟩
    · refine List.countP_eq_zero.2 fun x hx hin => ?_
      obtain ⟨slot, hslot⟩ := List.getElem?_of_mem hx
      cases (hwound.withdrawn hs slot x hslot).symm.trans hin
    · rw [hasBackend, hs]
      rfl
    · rw [newClient, if_pos hs]
    · rw [start, hs, Bool.true_or, if_pos rfl]
    · intro before order after slot x hsplit hx hin
      have hrunning : (c.run before).stopped = false := by
        cases hstopped : (c.run before).stopped with
        | false => rfl
        | true =>
          have hout := (hwinding.run before).withdrawn hstopped slot x hx
          cases hin.symm.trans hout
      have hcloses : (c.run actions).Closes slot := by
        rw [hsplit, run_append]
        exact (Closes.stop hrunning hx hin order).run after
      obtain ⟨y, hy, hstopped⟩ := hcloses.hasStopped (hwinding.run actions) hshutdown
      obtain ⟨z, hz⟩ : d.hub.HasStopped slot :=
        (hcloses.run later).hasStopped hwound (isClosed_iff.1 hd).1
      exact ⟨⟨z, hz⟩, clientCalls_of_stopped later hy hstopped⟩

/-- The connection is stopped in the middle of a walk, while one client has an event waiting. -/
def stoppedMidway : List Action :=
  [.newClient, .newClient, .startClient 0, .start, .tickBlocks, .answerBlockPoller .sample,
    .answerBlockPoller .sample, .stop [], .continueStop, .leave 0, .continueStop,
    .answerBlockPoller .sample]

def triedLater : List Action :=
  [.push (.blockConnected ⟨9, .blank⟩), .catchUp 0, .catchUp 1, .newClient, .start, .tickBlocks,
    .startClient 1, .handle 0]

def sampleOpened : Connection := opened .standard ⟨5, .zero⟩

theorem nothing_is_asked_after_midway_stop :
    sampleOpened.trace pollerCallsAt stoppedMidway = [.best, .block 6, .block 7] ∧
      (sampleOpened.trace allocatedAt stoppedMidway).map (fun id => id.value.toNat) = [1, 2] ∧
      (sampleOpened.run stoppedMidway).trace pollerCallsAt triedLater = [] ∧
      (sampleOpened.run stoppedMidway).trace (clientCallsAt 0) triedLater = [] ∧
      ∃ y, ((sampleOpened.run stoppedMidway).run triedLater).hub.clients[0]? = some y ∧
        y.isStopped = true := by
  obtain ⟨hids, _, _, hfinal⟩ := ids_in_order_and_stop_is_final .standard ⟨5, .zero⟩ stoppedMidway
  have hallocated : (sampleOpened.trace allocatedAt stoppedMidway).length = 2 := rfl
  have hasked : sampleOpened.trace pollerCallsAt stoppedMidway = [.best, .block 6, .block 7] :=
    rfl
  have hclosed : (sampleOpened.run stoppedMidway).isClosed = true := rfl
  have hnumbers := (hids (Nat.lt_of_le_of_lt (Nat.le_of_eq hallocated) (by decide))).1
  obtain ⟨_, _, _, _, _, hpollers, hclients⟩ := hfinal hclosed triedLater
  have hfirst : ∃ x : Client, (sampleOpened.run (stoppedMidway.take 7)).hub.clients[0]? = some x ∧
      x.registered = true := ⟨_, rfl, rfl⟩
  obtain ⟨x, hx, hin⟩ := hfirst
  obtain ⟨hstopped, hcalls⟩ :=
    hclients (stoppedMidway.take 7) [] (stoppedMidway.drop 8) 0 x rfl hx hin
  have htwo := hnumbers.trans (congrArg (fun n => List.range' 1 n) hallocated)
  exact ⟨hasked, htwo, hpollers, hcalls, hstopped⟩

end ChainFeed.Connection
