import ChainFeed.Proofs.Run.Books
import ChainFeed.Proofs.Run.Gauges

/-!
# What the metrics account for

The counters of a connection tell how many blocks and transactions the pollers have fetched, how
many events have been put into inboxes or refused by full ones, and how many calls of the backend
have failed. A step books whatever happens in it once, and nothing else.
-/

namespace ChainFeed

open Client Metrics

/-- The method that an error names. -/
def Error.method? : Error → Option String
  | .queryFailed method _ => some method
  | _ => none

/-- How the node fails a call, if it does. -/
def Source.failure? (source : Source) : Call → Option Error
  | .best => failureOf source.best
  | .block height => failureOf (source.block height)
  | .mempool => failureOf source.mempool
  | .transaction txid => failureOf (source.transaction txid)

/-- Whatever the node fails is a query. -/
def Source.FailsQueries (source : Source) : Prop :=
  ∀ call e, source.failure? call = some e → ∃ method reason, e = .queryFailed method reason

theorem Source.FailsQueries.sample : Source.sample.FailsQueries := by
  rintro (_ | _ | _ | _) e he
  · cases he
  · cases he
  · cases he
  · cases he
    exact ⟨_, _, rfl⟩

theorem Source.FailsQueries.silent : Source.silent.FailsQueries := by
  rintro (_ | _ | _ | _) e he <;> cases he <;> exact ⟨_, _, rfl⟩

def Action.source? : Action → Option Source
  | .answerClient _ source | .answerBlockPoller source | .answerTxPoller source => some source
  | _ => none

namespace Connection

open Hub

/-- The calls of the pollers that a step answers, with the node that answers. -/
def pollsAt (c : Connection) : Action → List (Call × Source)
  | .answerBlockPoller source => (c.hub.blockPoller.call?.map fun call => (call, source)).toList
  | .answerTxPoller source => (c.hub.txPoller.call?.map fun call => (call, source)).toList
  | _ => []

def catchUpsAt (c : Connection) : Action → List (Call × Source)
  | .answerClient slot source =>
    ((c.hub.clients[slot]?.bind Client.call?).map fun call => (call, source)).toList
  | _ => []

/-- The calls of the pollers that succeed in a step. -/
def fetchedAt (c : Connection) (a : Action) : List Call :=
  ((c.pollsAt a).filter fun p => (p.2.failure? p.1).isNone).map Prod.fst

/-- The errors of the calls that fail in a step. -/
def failuresAt (c : Connection) (a : Action) : List Error :=
  (c.pollsAt a ++ c.catchUpsAt a).filterMap fun p => p.2.failure? p.1

/-- The events of a step that the client at `slot` passes a test for. -/
def metAt (test : Event → Client → Bool) (slot : Nat) (c : Connection) (a : Action) : List Event :=
  met test slot c.hub.clients (c.dispatched a)

/-- What a step books. -/
def BooksAt (c : Connection) (a : Action) : Prop :=
  Books (c.fetchedAt a) (c.dispatched a) (c.failuresAt a) c.hub (c.step a).hub

section
variable (c : Connection)

theorem booksAt_answerBlockPoller (source : Source) : c.BooksAt (.answerBlockPoller source) := by
  simp only [BooksAt, fetchedAt, failuresAt, pollsAt, catchUpsAt, dispatched, step,
    answerBlockPoller]
  cases hp : c.hub.blockPoller with
  | idle => exact .refl _
  | askingBest =>
    cases hs : source.best with
    | error e =>
      simp only [onHub, bestArrived, hp]
      simpa [BlockPoller.call?, Source.failure?, hs, failureOf] using
        Books.blockTickFailed c.hub e
    | ok best =>
      simpa [BlockPoller.call?, Source.failure?, hs, failureOf, onHub] using
        Books.bestArrived c.hub best hp
  | walking next last done =>
    cases hs : source.block next with
    | error e =>
      simp only [onHub, blockArrived, hp]
      simpa [BlockPoller.call?, Source.failure?, hs, failureOf] using
        Books.blockTickFailed c.hub e
    | ok block =>
      simpa [BlockPoller.call?, Source.failure?, hs, failureOf, onHub] using
        Books.blockArrived c.hub block hp

theorem booksAt_answerTxPoller (source : Source) : c.BooksAt (.answerTxPoller source) := by
  simp only [BooksAt, fetchedAt, failuresAt, pollsAt, catchUpsAt, dispatched, step,
    answerTxPoller]
  cases hp : c.hub.txPoller with
  | idle => exact .refl _
  | askingListing =>
    cases hs : source.mempool with
    | error e =>
      simp only [onHub, listingArrived, hp]
      simpa [TxPoller.call?, Source.failure?, hs, failureOf] using
        Books.txTickFailed c.hub e
    | ok listing =>
      simpa [TxPoller.call?, Source.failure?, hs, failureOf, onHub] using
        Books.listingArrived c.hub listing hp
  | fetching id rest report =>
    cases hs : source.transaction id with
    | error e =>
      simp only [onHub, transactionArrived, hp]
      simpa [TxPoller.call?, Source.failure?, hs, failureOf] using
        (Books.recordFailure c.hub e).before (.fetchNext _ _ rest)
    | ok t =>
      simpa [TxPoller.call?, Source.failure?, hs, failureOf, onHub] using
        Books.transactionArrived c.hub t hp

theorem booksAt_answerClient (slot : Nat) (source : Source) :
    c.BooksAt (.answerClient slot source) := by
  simp only [BooksAt, fetchedAt, failuresAt, pollsAt, catchUpsAt, dispatched, step, answerClient]
  cases hx : c.hub.clients[slot]? with
  | none => exact .refl _
  | some x =>
    cases hu : x.catchUp with
    | none =>
      simpa [onHub, Hub.resumeCatchUp, hx, hu, Client.call?] using Books.refl c.hub
    | some u =>
      have hout := Books.resumeCatchUp c.hub hx hu (source.block u.next)
      cases hs : source.block u.next with
      | error e =>
        rw [hs] at hout
        simpa [onHub, hu, Client.call?, answerTo, Source.failure?, hs, failureOf] using hout
      | ok block =>
        rw [hs] at hout
        simpa [onHub, hu, Client.call?, answerTo, Source.failure?, hs, failureOf] using hout

theorem books_closeClients (slots : List Nat) :
    Books [] [] [] c.hub (c.closeClients slots).hub := by
  induction slots generalizing c with
  | nil => exact ⟨rfl, rfl, rfl, rfl, rfl, rfl⟩
  | cons n rest ih =>
    have hstop := Books.stopClient c.hub n
    rw [closeClients]
    split
    · exact hstop
    · exact hstop.before (ih { c with hub := c.hub.stopClient n })

theorem books_stop (order : List Nat) : Books [] [] [] c.hub (c.stop order).hub := by
  unfold stop
  split
  · exact .refl _
  · have hout : Books [] [] [] c.hub c.hub.unregisterAll := ⟨rfl, rfl, rfl, rfl, rfl, rfl⟩
    exact hout.before
      (books_closeClients { c with hub := c.hub.unregisterAll, stopped := true } _)

theorem books_continueStop : Books [] [] [] c.hub c.continueStop.hub := by
  unfold continueStop
  split
  · exact .refl _
  · split
    · exact .refl _
    · exact c.books_closeClients _

theorem books_newClient : Books [] [] [] c.hub (c.step .newClient).hub := by
  simp only [step, newClient]
  by_cases hs : c.stopped = true
  · simp only [hs, if_true]
    exact .refl _
  · have hadded (x : Client) : Books [] [] [] c.hub (c.hub.addClient x) :=
      ⟨rfl, rfl, rfl, rfl, rfl, rfl⟩
    simp only [hs]
    exact (hadded _).before (.register _ _)

/-- Each step books what it fetches, hands out and fails to get. -/
theorem booksAt_step (a : Action) : c.BooksAt a := by
  cases hsubject : a.subject with
  | some n =>
    by_cases hanswer : ∃ source, a = .answerClient n source
    · obtain ⟨source, rfl⟩ := hanswer
      exact c.booksAt_answerClient n source
    · have hnot (source : Source) : a ≠ .answerClient n source := fun heq => hanswer ⟨source, heq⟩
      have hsilent : c.fetchedAt a = [] ∧ c.dispatched a = [] ∧ c.failuresAt a = [] := by
        cases a with
        | answerClient m source => exact absurd (Option.some.inj hsubject ▸ rfl) (hnot source)
        | answerBlockPoller source => cases hsubject
        | answerTxPoller source => cases hsubject
        | push e => cases hsubject
        | _ => exact ⟨rfl, rfl, rfl⟩
      rw [BooksAt, hsilent.1, hsilent.2.1, hsilent.2.2, step_of_subject hsubject hnot]
      exact ⟨rfl, rfl, rfl, rfl, rfl, rfl⟩
  | none =>
    cases a with
    | newClient => exact c.books_newClient
    | removeClient id => exact ⟨rfl, rfl, rfl, rfl, rfl, rfl⟩
    | start =>
      simp only [BooksAt, step, start]
      split <;> exact .refl _
    | stop order => exact c.books_stop order
    | continueStop => exact c.books_continueStop
    | stopClient n => exact .stopClient _ n
    | tickBlocks =>
      simp only [BooksAt, step, onHub, beginBlockTick]
      split
      · split <;> exact ⟨rfl, rfl, rfl, rfl, rfl, rfl⟩
      · exact .refl _
    | answerBlockPoller source => exact c.booksAt_answerBlockPoller source
    | tickTransactions =>
      simp only [BooksAt, step, onHub, beginTxTick]
      split
      · split <;> exact ⟨rfl, rfl, rfl, rfl, rfl, rfl⟩
      · exact .refl _
    | answerTxPoller source => exact c.booksAt_answerTxPoller source
    | push e => exact .dispatch _ e
    | _ => cases hsubject

variable {c}

/-- A counter that goes up by the calls of a kind. -/
theorem polled_run {counter : Metrics → Nat} {kind : Call → Bool}
    (hstep : ∀ (c : Connection) a, counter (c.step a).hub.metrics =
      counter c.hub.metrics + (c.fetchedAt a).countP kind) (actions : List Action) :
    counter (c.run actions).hub.metrics =
      counter c.hub.metrics + (c.trace fetchedAt actions).countP kind := by
  induction actions generalizing c with
  | nil => rfl
  | cons a rest ih =>
    rw [run_cons, ih, hstep, trace_cons, List.countP_append, Nat.add_assoc]

/-- A counter that goes up by the clients that pass a test. -/
theorem met_run {counter : Metrics → Nat} {test : Event → Client → Bool}
    (hstep : ∀ (c : Connection) a, counter (c.step a).hub.metrics =
      counter c.hub.metrics + countTurns test c.hub.clients (c.dispatched a))
    {n : Nat} (actions : List Action) (hn : (c.run actions).hub.clients.length ≤ n) :
    counter (c.run actions).hub.metrics = counter c.hub.metrics +
      ∑ slot ∈ Finset.range n, (c.trace (metAt test slot) actions).length := by
  induction actions generalizing c with
  | nil => simp [trace_nil]
  | cons a rest ih =>
    have hnow : c.hub.clients.length ≤ n :=
      Nat.le_trans (c.length_le_run (a :: rest)) hn
    rw [run_cons, ih hn, hstep, countTurns_eq_sum test hnow]
    simp only [trace_cons, List.length_append, Finset.sum_add_distrib, metAt, Nat.add_assoc]

theorem failures_run (actions : List Action) : (c.run actions).hub.metrics.failures =
    countAll (c.trace failuresAt actions) c.hub.metrics.failures := by
  induction actions generalizing c with
  | nil => rfl
  | cons a rest ih =>
    rw [run_cons, ih, (c.booksAt_step a).failures, trace_cons, countAll, countAll, countAll,
      List.foldl_append]

theorem countP_deliveredAt (kind : Event → Bool) (slot : Nat) (actions : List Action) :
    (c.trace (deliveredAt slot) actions).countP kind =
      (c.trace (metAt (fun e x => kind e && x.takes e.concerns e) slot) actions).length := by
  induction actions generalizing c with
  | nil => rfl
  | cons a rest ih =>
    rw [trace_cons, List.countP_append, ih, trace_cons, List.length_append, deliveredAt,
      ← met_takes, countP_met, metAt]

theorem droppedAt_eq_metAt (slot : Nat) :
    droppedAt slot = metAt (fun e => Client.misses e.concerns e) slot := by
  funext c a
  cases hx : c.hub.clients[slot]? <;> simp [metAt, met_misses, droppedAt, hx]

/-- Over a node that fails queries only, every failure names its method. -/
theorem method_of_mem_failuresAt {a : Action} {e : Error}
    (hqueries : ∀ source ∈ a.source?, source.FailsQueries) (he : e ∈ c.failuresAt a) :
    ∃ method reason, e = .queryFailed method reason := by
  obtain ⟨⟨call, source⟩, hp, hfail⟩ := List.mem_filterMap.1 he
  refine hqueries source ?_ call e hfail
  obtain hp | hp := List.mem_append.1 hp
  · cases a with
    | answerBlockPoller source' =>
      simp only [pollsAt, Option.mem_toList, Option.map_eq_some_iff] at hp
      obtain ⟨_, _, heq⟩ := hp
      cases heq
      rfl
    | answerTxPoller source' =>
      simp only [pollsAt, Option.mem_toList, Option.map_eq_some_iff] at hp
      obtain ⟨_, _, heq⟩ := hp
      cases heq
      rfl
    | _ => cases hp
  · cases a with
    | answerClient slot source' =>
      simp only [catchUpsAt, Option.mem_toList, Option.map_eq_some_iff] at hp
      obtain ⟨_, _, heq⟩ := hp
      cases heq
      rfl
    | _ => cases hp

end

/-- The metrics account for every event. In every run over nodes that fail queries only, the gauges
show what there is. The deliveries are the blocks and the added transactions that inboxes have
accepted, the dropped ones the events of every kind that full inboxes have refused, and the polled
ones the calls of the pollers that have succeeded. Every call that has failed, of a poller or of a
client's catch-up, is counted once, under the method that its error names. -/
theorem metrics_account_for_every_event (config : BackendConfig) (best : Stamp)
    (actions : List Action)
    (hqueries : ∀ a ∈ actions, ∀ source ∈ a.source?, source.FailsQueries) :
    let c := opened config best
    let h := (c.run actions).hub
    let slots := Finset.range h.clients.length
    let errors := c.trace failuresAt actions
    (h.metrics.watermarkHeight = h.watermark.height.toNat ∧
      h.metrics.clientsRegistered = h.registeredCount ∧
      h.metrics.mempoolTracked = h.tracker.size) ∧
    h.metrics.blockDeliveries =
      ∑ slot ∈ slots, (c.trace (deliveredAt slot) actions).countP (fun e => e.block?.isSome) ∧
    h.metrics.transactionDeliveries =
      ∑ slot ∈ slots, (c.trace (deliveredAt slot) actions).countP (fun e => e.added?.isSome) ∧
    h.metrics.droppedDeliveries = ∑ slot ∈ slots, (c.trace (droppedAt slot) actions).length ∧
    h.metrics.blocksPolled = (c.trace fetchedAt actions).countP Call.isBlock ∧
    h.metrics.transactionsPolled = (c.trace fetchedAt actions).countP Call.isTransaction ∧
    h.metrics.totalFailures = errors.length ∧
    (h.metrics.failures.map Prod.fst).Nodup ∧
    (∀ e ∈ errors, e.method?.isSome = true) ∧
    (∀ method, under method h.metrics.failures = errors.countP fun e => e.method? = some method) ∧
    (∀ label, label ∈ h.metrics.failures.map Prod.fst ↔ ∃ e ∈ errors, e.method? = some label) ∧
    ((∀ e ∈ errors, e.method? ≠ some "other") → under "other" h.metrics.failures = 0) := by
  intro c h slots errors
  have hgauged : h.Gauged := gauged_run (.new best) actions
  have hfailures : h.metrics.failures = countAll errors [] := failures_run actions
  have hmethod : ∀ e ∈ errors, ∃ method reason, e = .queryFailed method reason := by
    intro e he
    obtain ⟨before, a, after, heq, hnow⟩ := mem_trace he
    exact method_of_mem_failuresAt (hqueries a (by simp [heq])) hnow
  have hlabel : ∀ e ∈ errors, ∀ label, failureLabel e = label ↔ e.method? = some label := by
    intro e he label
    obtain ⟨method, reason, rfl⟩ := hmethod e he
    exact Option.some_inj.symm
  have hunder (method : String) : under method h.metrics.failures =
      errors.countP fun e => e.method? = some method := by
    rw [hfailures, under_countAll]
    refine (Nat.zero_add _).trans (List.countP_congr fun e he => ?_)
    simpa using hlabel e he method
  refine ⟨⟨hgauged.watermark, hgauged.clients, hgauged.tracker⟩, ?_, ?_, ?_, ?_, ?_, ?_, ?_, ?_,
    hunder, ?_, ?_⟩
  · simp only [countP_deliveredAt]
    exact (met_run (fun c a => (c.booksAt_step a).blockDeliveries) actions (Nat.le_refl _)).trans
      (Nat.zero_add _)
  · simp only [countP_deliveredAt]
    exact (met_run (fun c a => (c.booksAt_step a).transactionDeliveries) actions
      (Nat.le_refl _)).trans (Nat.zero_add _)
  · simp only [droppedAt_eq_metAt]
    exact (met_run (fun c a => (c.booksAt_step a).droppedDeliveries) actions
      (Nat.le_refl _)).trans (Nat.zero_add _)
  · exact (polled_run (fun c a => (c.booksAt_step a).blocksPolled) actions).trans
      (Nat.zero_add _)
  · exact (polled_run (fun c a => (c.booksAt_step a).transactionsPolled) actions).trans
      (Nat.zero_add _)
  · rw [totalFailures, hfailures, total_countAll]
    exact Nat.zero_add _
  · rw [hfailures]
    exact nodup_countAll List.nodup_nil
  · intro e he
    obtain ⟨method, reason, rfl⟩ := hmethod e he
    rfl
  · intro label
    rw [hfailures, mem_countAll]
    constructor
    · rintro (hnil | ⟨e, he, hl⟩)
      · cases hnil
      · exact ⟨e, he, (hlabel e he label).1 hl⟩
    · rintro ⟨e, he, hl⟩
      exact .inr ⟨e, he, (hlabel e he label).2 hl⟩
  · intro hother
    rw [hunder, List.countP_eq_zero]
    intro e he
    simpa using hother e he

/-- A block is fetched while the client has room for it, the next cannot be fetched, the mempool
cannot be listed, and a block comes from outside when the inbox is full. -/
def patchyPolls : List Action :=
  [.newClient, .start, .tickBlocks, .answerBlockPoller .sample, .answerBlockPoller .sample,
    .answerBlockPoller .silent, .tickTransactions, .answerTxPoller .silent,
    .push (.blockConnected ⟨7, .blank⟩)]

theorem patchy_polls_are_accounted_for :
    let m := (narrowOpened.run patchyPolls).hub.metrics
    m.watermarkHeight = 7 ∧ m.blocksPolled = 1 ∧ m.blockDeliveries = 1 ∧ m.droppedDeliveries = 1 ∧
      m.totalFailures = 2 ∧ under "getblockhash" m.failures = 1 ∧
      under "getrawmempool" m.failures = 1 ∧ under "other" m.failures = 0 := by
  have hqueries : ∀ a ∈ patchyPolls, ∀ source ∈ a.source?, source.FailsQueries := by
    simp only [patchyPolls, List.forall_mem_cons, Action.source?, Option.mem_def, Option.some.injEq,
      reduceCtorEq, forall_eq', List.not_mem_nil, false_imp_iff, implies_true, true_and, and_true]
    exact ⟨.sample, .sample, .silent, .silent⟩
  have herrors : narrowOpened.trace failuresAt patchyPolls =
      [.queryFailed "getblockhash" "timeout", .queryFailed "getrawmempool" "timeout"] := rfl
  have hfetched : narrowOpened.trace fetchedAt patchyPolls = [.best, .block 6] := rfl
  have hdelivered : narrowOpened.trace (deliveredAt 0) patchyPolls =
      [.blockConnected ⟨6, .blank⟩] := rfl
  have hdropped : narrowOpened.trace (droppedAt 0) patchyPolls =
      [.blockConnected ⟨7, .blank⟩] := rfl
  have honly (f : Nat → Nat) : ∑ slot ∈ Finset.range
      (narrowOpened.run patchyPolls).hub.clients.length, f slot = f 0 := Finset.sum_range_one f
  obtain ⟨⟨hheight, _⟩, hblocks, _, hrefused, hpolled, _, htotal, _, _, hunder, _, hother⟩ :=
    metrics_account_for_every_event { BackendConfig.standard with clientBuffer := 1 } ⟨5, .zero⟩
      patchyPolls hqueries
  refine ⟨hheight, hpolled.trans (congrArg _ hfetched), hblocks.trans ((honly _).trans ?_),
    hrefused.trans ((honly _).trans (congrArg _ hdropped)), htotal.trans (congrArg _ herrors),
    (hunder _).trans ?_, (hunder _).trans ?_, hother ?_⟩
  · exact congrArg (List.countP _) hdelivered
  · exact (congrArg (List.countP _) herrors).trans (by decide)
  · exact (congrArg (List.countP _) herrors).trans (by decide)
  · change ∀ e ∈ narrowOpened.trace failuresAt patchyPolls, e.method? ≠ some "other"
    rw [herrors]
    decide

end Connection

end ChainFeed
