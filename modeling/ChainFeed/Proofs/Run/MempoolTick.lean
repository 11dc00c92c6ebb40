import ChainFeed.Proofs.Run.Announcement
import ChainFeed.Proofs.Run.Shutdown

/-!
# One look at the mempool

A tick of the transaction poller hears a listing, tells at once of the ids that are gone, and asks
for those that are new one after the other. What it has come to so far depends only on the listing
and on the answers, whatever else happens in the run meanwhile.
-/

namespace ChainFeed

/-- What can happen until the transaction poller begins its next tick. -/
def Action.IsWithinTick : Action → Prop
  | .tickTransactions => False
  | a => a.IsFaithful

def Action.isTxAnswer : Action → Bool
  | .answerTxPoller _ => true
  | _ => false

def fetched (attempts : List (Txid × Bool)) : List Txid := (attempts.filter Prod.snd).map Prod.fst

/-- The report of a tick goes on by the answers that it gets. -/
def TxTick.after (r : TxTick) (attempts : List (Txid × Bool)) : TxTick where
  added := r.added + (fetched attempts).length
  removed := r.removed
  failed := r.failed + attempts.countP fun p => !p.2

section
variable (attempts : List (Txid × Bool)) (id : Txid)

@[simp] theorem fetched_nil : fetched [] = [] := rfl

@[simp] theorem fetched_cons_true : fetched ((id, true) :: attempts) = id :: fetched attempts := rfl

@[simp] theorem fetched_cons_false : fetched ((id, false) :: attempts) = fetched attempts := rfl

theorem mem_fetched {t : Txid} : t ∈ fetched attempts ↔ (t, true) ∈ attempts := by
  simp [fetched]

@[simp] theorem TxTick.after_nil (r : TxTick) : r.after [] = r := rfl

theorem TxTick.after_cons (r : TxTick) (p : Txid × Bool) :
    r.after (p :: attempts) = (r.after [p]).after attempts := by
  obtain ⟨id, ok⟩ := p
  cases ok
  · simp [after, Nat.add_assoc, Nat.add_comm 1]
  · simp [after, Nat.add_assoc, Nat.add_comm 1]

/-- Every answer counts as an addition or as a failure. -/
theorem length_fetched_add_failed :
    (fetched attempts).length + attempts.countP (fun p => !p.2) = attempts.length := by
  have hlen := attempts.length_eq_countP_add_countP Prod.snd
  rw [fetched, List.length_map, ← List.countP_eq_length_filter, hlen]
  simp

end

namespace Hub

variable (h : Hub)

/-- The tick ends when no id is left, or at a shutdown. -/
theorem fetchNext_cases (report : TxTick) (ids : List Txid) :
    ((ids = [] ∨ h.shutdown = true) ∧ h.fetchNext report ids = h.endTxTick (.ok report)) ∨
      ∃ id rest, ids = id :: rest ∧ h.shutdown = false ∧
        h.fetchNext report ids = ({ h with txPoller := .fetching id rest report }, none) := by
  cases ids with
  | nil => exact .inl ⟨.inl rfl, rfl⟩
  | cons id rest =>
    rw [fetchNext]
    split
    · next hs => exact .inl ⟨.inr hs, rfl⟩
    · next hs => exact .inr ⟨id, rest, rfl, by simpa using hs, rfl⟩

/-- The hub when all the removals of a listing have been told. -/
def afterRemovals (h : Hub) (listing : List Txid) : Hub :=
  (Delta.between h.tracker listing).removed.foldl (fun h id => (h.dispatchRemoval id).1)
    (h.reconcile listing).2

/-- A listing without news is the case that there is no id to tell of and none to ask for. -/
theorem listingArrived_ok {listing : List Txid} (hask : h.txPoller = .askingListing) :
    h.listingArrived (.ok listing) =
      (h.afterRemovals listing).fetchNext
        ⟨0, (Delta.between h.tracker listing).removed.length, 0⟩
        (Delta.between h.tracker listing).added := by
  simp only [listingArrived, hask]
  by_cases hempty : (h.reconcile listing).1.isEmpty = true
  · obtain ⟨hadded, hremoved⟩ : (Delta.between h.tracker listing).added = [] ∧
        (Delta.between h.tracker listing).removed = [] := by
      simpa [Delta.isEmpty, reconcile] using hempty
    rw [if_pos hempty, afterRemovals, hadded, hremoved]
    rfl
  · rw [if_neg hempty]
    rfl

end Hub

namespace Connection

/-- The result of the tick of the transaction poller that a step ends. -/
def txResult (c : Connection) : Action → Option (Except Error TxTick)
  | .answerTxPoller source =>
    match c.hub.txPoller with
    | .idle => none
    | .askingListing => (c.hub.listingArrived source.mempool).2
    | .fetching id _ _ => (c.hub.transactionArrived (source.transaction id)).2
  | _ => none

def txResultsAt (c : Connection) (a : Action) : List (Except Error TxTick) := (c.txResult a).toList

def newsAt (c : Connection) (a : Action) : List Event :=
  (c.dispatched a).filter fun e => e.block?.isNone

/-- At no answer to the transaction poller had a shutdown been signalled. -/
def Undisturbed (c : Connection) (actions : List Action) : Prop :=
  ∀ before source after, actions = before ++ .answerTxPoller source :: after →
    (c.run before).hub.shutdown = false

theorem undisturbed_cons {c : Connection} {a : Action} {rest : List Action}
    (hhead : a.isTxAnswer = true → c.hub.shutdown = false) (htail : (c.step a).Undisturbed rest) :
    c.Undisturbed (a :: rest) := by
  rintro (_ | ⟨a', before⟩) source after heq
  · cases heq
    exact hhead rfl
  · cases heq
    exact htail before source after rfl

section
variable {c : Connection} {a : Action}

/-- What is not an answer to the transaction poller leaves its tick as it is. -/
theorem quiet_step (ha : a.IsWithinTick) (hno : a.isTxAnswer = false) :
    c.hub.SameMempool (c.step a).hub ∧ c.newsAt a = [] ∧ c.fetchesAt a = [] ∧
      c.txResult a = none := by
  cases a with
  | tickBlocks =>
    refine ⟨?_, rfl, rfl, rfl⟩
    simp only [step]
    split
    · simp only [onHub, Hub.beginBlockTick]
      split <;> exact ⟨rfl, rfl⟩
    · exact .refl _
  | answerBlockPoller source =>
    refine ⟨c.sameMempool_answerBlockPoller source, ?_, rfl, rfl⟩
    simp only [newsAt, dispatched]
    split
    · split <;> rfl
    · rfl
  | tickTransactions => exact ha.elim
  | answerTxPoller source => cases hno
  | push e =>
    obtain ⟨b, rfl⟩ := ha
    exact ⟨c.hub.sameMempool_dispatchBlock b, rfl, rfl, rfl⟩
  | _ => exact ⟨(c.frame_step rfl).sameMempool, rfl, rfl, rfl⟩

/-- An answer that nobody waits for is lost. -/
theorem idle_step_answer (source : Source) (hidle : c.hub.txPoller = .idle) :
    c.step (.answerTxPoller source) = c ∧ c.newsAt (.answerTxPoller source) = [] ∧
      c.fetchesAt (.answerTxPoller source) = [] ∧ c.txResult (.answerTxPoller source) = none := by
  simp only [step, answerTxPoller, newsAt, dispatched, fetchesAt, txResult, hidle,
    List.filter_nil, and_self]

/-- How the tick goes on with the ids that are left, after an answer has been dealt with. -/
inductive GoesOn (c : Connection) (a : Action) (report : TxTick) (ids : List Txid) : Prop where
  | ended (hends : ids = [] ∨ (c.step a).hub.shutdown = true)
      (hpoller : (c.step a).hub.txPoller = .idle) (hresult : c.txResult a = some (.ok report))
  | underWay (id : Txid) (rest : List Txid) (hids : ids = id :: rest)
      (hshutdown : c.hub.shutdown = false)
      (hpoller : (c.step a).hub.txPoller = .fetching id rest report)
      (hresult : c.txResult a = none)

theorem goesOn_of_fetchNext {h : Hub} {report : TxTick} {ids : List Txid}
    (hstep : (c.step a).hub = recordTick (h.fetchNext report ids))
    (hresult : c.txResult a = (h.fetchNext report ids).2) (hshutdown : h.shutdown = c.hub.shutdown) :
    GoesOn c a report ids := by
  obtain ⟨hends, hnext⟩ | ⟨id, rest, rfl, hs, hnext⟩ := h.fetchNext_cases report ids
  · rw [hnext] at hstep hresult
    refine .ended (hends.imp_right fun hs => ?_) (by rw [hstep]; rfl) hresult
    rw [hstep]
    exact hs
  · rw [hnext] at hstep hresult
    exact .underWay id rest rfl (hshutdown ▸ hs) (by rw [hstep]; rfl) hresult

/-- The answer about a transaction settles the attempt `p`: the transaction is told and tracked, or
passed over. -/
structure Settles (c : Connection) (a : Action) (p : Txid × Bool) (report : TxTick)
    (rest : List Txid) : Prop where
  fetches : c.fetchesAt a = [p]
  news : ∃ txs : List Transaction, c.newsAt a = txs.map .transactionAdded ∧
    txs.map Transaction.txid = fetched [p]
  tracker : ∀ t, t ∈ (c.step a).hub.tracker ↔ t ∈ c.hub.tracker ∨ (t, true) = p
  goesOn : GoesOn c a (report.after [p]) rest

theorem fetch_step (source : Source) (hfaithful : source.IsFaithful) {id : Txid} {rest : List Txid}
    {report : TxTick} (hfetch : c.hub.txPoller = .fetching id rest report) :
    ∃ ok, Settles c (.answerTxPoller source) (id, ok) report rest := by
  have hk : (c.step (.answerTxPoller source)).hub =
      recordTick (c.hub.transactionArrived (source.transaction id)) := by
    simp only [step, answerTxPoller, hfetch]
    rfl
  have hresult : c.txResult (.answerTxPoller source) =
      (c.hub.transactionArrived (source.transaction id)).2 := by
    simp only [txResult, hfetch]
  have hframe := frame_recordTick (c.hub.transactionArrived (source.transaction id))
  cases ht : source.transaction id with
  | error e =>
    simp only [ht, Hub.transactionArrived, hfetch] at hk hresult hframe
    refine ⟨false, ?_, ⟨[], ?_, rfl⟩, fun t => ?_, goesOn_of_fetchNext hk hresult rfl⟩
    · simp only [fetchesAt, hfetch, ht]
      rfl
    · simp only [newsAt, dispatched, hfetch, ht]
      rfl
    · rw [hk, hframe.tracker, Hub.tracker_fetchNext]
      simp [Hub.recordFailure]
  | ok t =>
    obtain rfl : t.txid = id := hfaithful id t ht
    simp only [ht, Hub.transactionArrived, hfetch] at hk hresult hframe
    refine ⟨true, ?_, ⟨[t], ?_, rfl⟩, fun t' => ?_, goesOn_of_fetchNext hk hresult rfl⟩
    · simp only [fetchesAt, hfetch, ht]
      rfl
    · simp only [newsAt, dispatched, hfetch, ht]
      rfl
    · rw [hk, hframe.tracker, Hub.tracker_fetchNext]
      refine (Distinct.mem_insert (s := c.hub.tracker)).trans (or_congr_right ?_)
      simp

/-- The answer to the question for the listing: all that is gone is told at once. -/
theorem listing_step (source : Source) {listing : List Txid} (hask : c.hub.txPoller = .askingListing)
    (hlisting : source.mempool = .ok listing) :
    c.newsAt (.answerTxPoller source) =
        (Delta.between c.hub.tracker listing).removed.map .transactionRemoved ∧
      c.fetchesAt (.answerTxPoller source) = [] ∧
      (∀ t, t ∈ (c.step (.answerTxPoller source)).hub.tracker ↔
        t ∈ c.hub.tracker ∧ t ∈ listing) ∧
      GoesOn c (.answerTxPoller source) ⟨0, (Delta.between c.hub.tracker listing).removed.length, 0⟩
        (Delta.between c.hub.tracker listing).added := by
  have hk : (c.step (.answerTxPoller source)).hub =
      recordTick (c.hub.listingArrived (.ok listing)) := by
    simp only [step, answerTxPoller, hask, hlisting]
    rfl
  have hresult : c.txResult (.answerTxPoller source) = (c.hub.listingArrived (.ok listing)).2 := by
    simp only [txResult, hask, hlisting]
  refine ⟨?_, ?_, fun t => ?_, ?_⟩
  · simp only [newsAt, dispatched, hask, hlisting]
    refine List.filter_eq_self.2 fun e he => ?_
    obtain ⟨id, _, rfl⟩ := List.mem_map.1 he
    rfl
  · simp only [fetchesAt, hask]
  · rw [hk, (frame_recordTick _).tracker]
    exact c.hub.mem_tracker_listingArrived hask t
  · rw [Hub.listingArrived_ok _ hask] at hk hresult
    exact goesOn_of_fetchNext hk hresult (Hub.shutdown_removals _ _)

/-- A listing that fails ends the tick, and nothing else comes of it but the failure. -/
theorem listing_step_error (source : Source) {e : Error} (hask : c.hub.txPoller = .askingListing)
    (hlisting : source.mempool = .error e) :
    c.txResult (.answerTxPoller source) = some (.error e) ∧
      c.step (.answerTxPoller source) =
        c.onHub fun h => Hub.recordFailure { h with txPoller := .idle } e := by
  simp only [txResult, step, answerTxPoller, hask, hlisting, Hub.listingArrived, Hub.endTxTick,
    onHub, recordTick, and_self]

end

/-- How a tick stands that is to ask for `ids`, by what it has asked for and by its results. -/
inductive TickStanding (ids : List Txid) (report : TxTick) (attempts : List (Txid × Bool))
    (results : List (Except Error TxTick)) (h : Hub) : Prop where
  | underWay (hresults : results = []) (hpending : h.pending ≠ [])
      (horder : attempts.map Prod.fst ++ h.pending = ids)
  | ended (hresults : results = [.ok (report.after attempts)]) (hpending : h.pending = [])
      (horder : attempts.map Prod.fst <+: ids)
      (hends : attempts.map Prod.fst = ids ∨ h.shutdown = true)

namespace TickStanding

variable {ids : List Txid} {report : TxTick} {attempts : List (Txid × Bool)}
  {results : List (Except Error TxTick)} {h : Hub}

theorem order (hs : TickStanding ids report attempts results h) :
    attempts.map Prod.fst <+: ids := by
  cases hs with
  | underWay _ _ horder => exact ⟨_, horder⟩
  | ended _ _ horder => exact horder

/-- Without a shutdown, a tick that has had an answer for each id is over. -/
theorem complete (hs : TickStanding ids report attempts results h) (hrunning : h.shutdown = false)
    (hanswers : h.pending ≠ [] → attempts.length = ids.length) :
    attempts.map Prod.fst = ids ∧ results = [.ok (report.after attempts)] := by
  cases hs with
  | underWay _ hpending horder =>
    have hlen := congrArg List.length horder
    rw [List.length_append, List.length_map, hanswers hpending] at hlen
    exact absurd (List.length_eq_zero_iff.1 (by omega)) hpending
  | ended hresults _ _ hends =>
    refine ⟨hends.resolve_right fun hshutdown => ?_, hresults⟩
    rw [hshutdown] at hrunning
    cases hrunning

end TickStanding

/-- What comes of a tick that has `ids` left to ask for, when the last step had the result
`result`. -/
structure TickRest (c : Connection) (ids : List Txid) (report : TxTick)
    (result : Option (Except Error TxTick)) (actions : List Action) : Prop where
  news : ∃ txs : List Transaction, c.trace newsAt actions = txs.map .transactionAdded ∧
    txs.map Transaction.txid = fetched (c.trace fetchesAt actions)
  tracker : ∀ t, t ∈ (c.run actions).hub.tracker ↔
    t ∈ c.hub.tracker ∨ t ∈ fetched (c.trace fetchesAt actions)
  standing : TickStanding ids report (c.trace fetchesAt actions)
    (result.toList ++ c.trace txResultsAt actions) (c.run actions).hub
  progress : (c.run actions).hub.pending ≠ [] →
    (c.trace fetchesAt actions).length = actions.countP Action.isTxAnswer ∧ c.Undisturbed actions

section
variable {c : Connection} {actions : List Action}

/-- A tick that is over stays so. -/
theorem idle_run (hidle : c.hub.txPoller = .idle) (hall : ∀ a ∈ actions, a.IsWithinTick) :
    c.hub.SameMempool (c.run actions).hub ∧ c.trace newsAt actions = [] ∧
      c.trace fetchesAt actions = [] ∧ c.trace txResultsAt actions = [] := by
  induction actions generalizing c with
  | nil => exact ⟨.refl _, rfl, rfl, rfl⟩
  | cons a rest ih =>
    have hstep : c.hub.SameMempool (c.step a).hub ∧ c.newsAt a = [] ∧ c.fetchesAt a = [] ∧
        c.txResult a = none := by
      cases hans : a.isTxAnswer with
      | false => exact quiet_step (hall a List.mem_cons_self) hans
      | true =>
        cases a with
        | answerTxPoller source =>
          obtain ⟨hstep, hquiet⟩ := idle_step_answer source hidle
          exact ⟨by rw [hstep]; exact .refl _, hquiet⟩
        | _ => cases hans
    obtain ⟨hsame, hnews, hfetches, hresult⟩ := hstep
    obtain ⟨hsame', hnews', hfetches', hresults'⟩ := ih (hsame.txPoller.trans hidle)
      fun b hb => hall b (List.mem_cons_of_mem _ hb)
    refine ⟨hsame.trans hsame', ?_, ?_, ?_⟩
    · rw [trace_cons, hnews, hnews', List.append_nil]
    · rw [trace_cons, hfetches, hfetches', List.append_nil]
    · rw [trace_cons, txResultsAt, hresult, hresults']
      rfl

theorem tickRest_of_idle {ids : List Txid} (report : TxTick) (hidle : c.hub.txPoller = .idle)
    (hends : ids = [] ∨ c.hub.shutdown = true) (hall : ∀ a ∈ actions, a.IsWithinTick) :
    TickRest c ids report (some (.ok report)) actions := by
  obtain ⟨hsame, hnews, hfetches, hresults⟩ := idle_run hidle hall
  have hpending : (c.run actions).hub.pending = [] := by
    rw [hsame.pending, Hub.pending, hidle]
  refine ⟨⟨[], by rw [hnews]; rfl, by rw [hfetches]; rfl⟩, fun t => ?_, .ended ?_ hpending ?_ ?_,
    fun h => absurd hpending h⟩
  · rw [hsame.tracker, hfetches]
    simp
  · rw [hfetches, hresults]
    rfl
  · rw [hfetches]
    exact List.nil_prefix
  · rw [hfetches]
    refine hends.imp Eq.symm fun hs => ?_
    exact keep_run (P := fun d => d.hub.shutdown = true) (fun {d} a h => d.shutdown_step a h)
      actions hs

/-- What comes of the steps after the one in which the tick went on with `ids`, by what comes of
them while the tick is under way. -/
theorem tickRest_of_goesOn {a : Action} {ids : List Txid} {report : TxTick}
    (hgoes : GoesOn c a report ids) (hall : ∀ b ∈ actions, b.IsWithinTick)
    (hunder : ∀ id rest, (c.step a).hub.txPoller = .fetching id rest report →
      TickRest (c.step a) (id :: rest) report none actions) :
    TickRest (c.step a) ids report (c.txResult a) actions ∧
      (((c.step a).run actions).hub.pending ≠ [] → c.hub.shutdown = false) := by
  cases hgoes with
  | ended hends hpoller hresult =>
    have hrest := tickRest_of_idle report hpoller hends hall
    rw [hresult]
    refine ⟨hrest, fun hleft => ?_⟩
    cases hrest.standing with
    | underWay hresults => cases hresults
    | ended _ hpending => exact absurd hpending hleft
  | underWay id rest hids hshutdown hpoller hresult =>
    rw [hresult, hids]
    exact ⟨hunder id rest hpoller, fun _ => hshutdown⟩

namespace TickRest

variable {a : Action} {ids rest : List Txid} {report : TxTick}

/-- A step that is no answer leaves the tick as it is. -/
theorem quiet (ha : a.IsWithinTick) (hans : a.isTxAnswer = false)
    (h : TickRest (c.step a) ids report none actions) :
    TickRest c ids report none (a :: actions) := by
  obtain ⟨hsame, hnews, hfetches, hresult⟩ := quiet_step ha hans
  refine ⟨?_, fun t => ?_, ?_, fun hleft => ?_⟩
  · rw [trace_cons, trace_cons, hnews, hfetches]
    exact h.news
  · rw [trace_cons, hfetches, run_cons]
    exact (h.tracker t).trans (by rw [hsame.tracker]; rfl)
  · rw [trace_cons, trace_cons, hfetches, txResultsAt, hresult]
    exact h.standing
  · obtain ⟨hlen, hquiet⟩ := h.progress hleft
    rw [trace_cons, hfetches, List.countP_cons_of_neg (by simp [hans])]
    exact ⟨hlen, undisturbed_cons (fun h => by simp [hans] at h) hquiet⟩

/-- An answer comes before what follows it, in the news and among the attempts. -/
theorem answered {p : Txid × Bool} (hans : a.isTxAnswer = true) (hp : Settles c a p report rest)
    (h : TickRest (c.step a) rest (report.after [p]) (c.txResult a) actions)
    (hshutdown : ((c.step a).run actions).hub.pending ≠ [] → c.hub.shutdown = false) :
    TickRest c (p.1 :: rest) report none (a :: actions) := by
  obtain ⟨txs, hnews, htxs⟩ := hp.news
  obtain ⟨later, hnews', htxs'⟩ := h.news
  have hattempts : c.trace fetchesAt (a :: actions) =
      p :: (c.step a).trace fetchesAt actions := by
    rw [trace_cons, hp.fetches, List.singleton_append]
  have hfetched : fetched (c.trace fetchesAt (a :: actions)) =
      fetched [p] ++ fetched ((c.step a).trace fetchesAt actions) := by
    rw [hattempts, ← List.singleton_append, fetched, List.filter_append, List.map_append]
    rfl
  refine ⟨⟨txs ++ later, ?_, ?_⟩, fun t => ?_, ?_, fun hleft => ?_⟩
  · rw [trace_cons, hnews, hnews', List.map_append]
  · rw [hfetched, List.map_append, htxs, htxs']
  · rw [hfetched, run_cons, h.tracker t, hp.tracker t, List.mem_append, mem_fetched [p],
      List.mem_singleton, or_assoc]
  · rw [hattempts, trace_cons]
    cases h.standing with
    | underWay hresults hpending horder =>
      refine .underWay hresults hpending ?_
      rw [List.map_cons, List.cons_append, run_cons, horder]
    | ended hresults hpending horder hends =>
      refine .ended ?_ hpending ?_ ?_
      · rw [TxTick.after_cons]
        exact hresults
      · rw [List.map_cons]
        exact List.cons_prefix_cons.2 ⟨rfl, horder⟩
      · exact hends.imp_left fun h => by rw [List.map_cons, h]
  · obtain ⟨hlen, hquiet⟩ := h.progress hleft
    rw [hattempts, List.countP_cons_of_pos hans, List.length_cons, hlen]
    exact ⟨rfl, undisturbed_cons (fun _ => hshutdown hleft) hquiet⟩

end TickRest

/-- By induction on the steps: those that are no answers leave the tick as it is, and an answer
settles the id that is asked for. -/
theorem tickRest_of_fetching {id : Txid} {rest : List Txid} {report : TxTick}
    (hfetch : c.hub.txPoller = .fetching id rest report)
    (hall : ∀ a ∈ actions, a.IsWithinTick) : TickRest c (id :: rest) report none actions := by
  induction actions generalizing c id rest report with
  | nil =>
    have hpending : c.hub.pending = id :: rest := by rw [Hub.pending, hfetch]
    refine ⟨⟨[], rfl, rfl⟩, fun t => by simp, .underWay rfl ?_ hpending, fun _ => ⟨rfl, ?_⟩⟩
    · rw [run_nil, hpending]
      exact List.cons_ne_nil _ _
    · intro before source after heq
      exact absurd heq.symm (by simp)
  | cons a actions ih =>
    have ha := hall a List.mem_cons_self
    have hrest : ∀ b ∈ actions, b.IsWithinTick := fun b hb => hall b (List.mem_cons_of_mem _ hb)
    cases hans : a.isTxAnswer with
    | false =>
      obtain ⟨hsame, _⟩ := quiet_step ha hans
      exact (ih (hsame.txPoller.trans hfetch) hrest).quiet ha hans
    | true =>
      cases a with
      | answerTxPoller source =>
        obtain ⟨ok, hp⟩ := fetch_step source ha hfetch
        obtain ⟨htail, hshutdown⟩ := tickRest_of_goesOn hp.goesOn hrest fun _ _ h => ih h hrest
        exact htail.answered hans hp hshutdown
      | _ => cases hans

end

def numberedCoin (n : UInt32) : Transaction := { sampleCoin with lockTime := n }

/-- Coins 1 and 2 are tracked, and the next listing is asked for. -/
def betweenTicks : Connection :=
  (opened .standard ⟨5, .zero⟩).run
    [.start, .tickTransactions, .answerTxPoller (.holding [numberedCoin 1, numberedCoin 2]),
      .answerTxPoller (.holding [numberedCoin 1]), .answerTxPoller (.holding [numberedCoin 2]),
      .tickTransactions]

/-- Coin 2 is gone, and coin 3 is listed twice. -/
def listedCoins : List Transaction :=
  [numberedCoin 3, numberedCoin 1, numberedCoin 3, numberedCoin 4]

/-- Coin 3 is refused, and a client is made meanwhile. -/
def afterListing : List Action :=
  [.answerTxPoller .silent, .newClient, .answerTxPoller (.holding listedCoins)]

end Connection

end ChainFeed
