import ChainFeed.Proofs.Client.Announced
import ChainFeed.Proofs.Run.MempoolStep

/-!
# One announcement per stay in the mempool

As long as nobody else tells of the mempool, the transaction poller tracks an id from the event that
announces it up to the first listing that lacks it, and asks for no id that is tracked. For one id a
step is one of four kinds, and what a run tells of the id follows from what each of them does.
-/

namespace ChainFeed

/-- The node answers with the transaction that it is asked for. -/
def Source.IsFaithful (source : Source) : Prop :=
  ∀ id t, source.transaction id = .ok t → t.txid = id

/-- Nothing is said of the mempool but what the transaction poller finds, and what it is answered is
right. -/
def Action.IsFaithful : Action → Prop
  | .answerTxPoller source => source.IsFaithful
  | .push e => ∃ b, e = .blockConnected b
  | _ => True

/-- A node whose mempool is `pool`. -/
def Source.holding (pool : List Transaction) : Source :=
  { Source.sample with
    mempool := .ok (pool.map Transaction.txid)
    transaction := fun id => (pool.find? (·.txid = id)).elim (Source.silent.transaction id) .ok }

theorem Source.isFaithful_silent : silent.IsFaithful := fun _ _ h => nomatch h

theorem Source.isFaithful_holding (pool : List Transaction) : (holding pool).IsFaithful := by
  intro id t ht
  change (pool.find? (·.txid = id)).elim (silent.transaction id) .ok = .ok t at ht
  cases hfind : pool.find? (·.txid = id) with
  | none =>
    rw [hfind] at ht
    cases ht
  | some found =>
    rw [hfind] at ht
    cases ht
    simpa using List.find?_some hfind

/-- What is said of one id. -/
def newsOf (t : Txid) (l : List (Txid × Bool)) : List Bool :=
  (l.filter fun p => p.1 = t).map Prod.snd

section
variable {t : Txid}

theorem newsOf_append (l m : List (Txid × Bool)) :
    newsOf t (l ++ m) = newsOf t l ++ newsOf t m := by
  rw [newsOf, List.filter_append, List.map_append, newsOf, newsOf]

theorem newsOf_singleton (b : Bool) : newsOf t [(t, b)] = [b] := by
  simp [newsOf]

theorem newsOf_eq_nil {l : List (Txid × Bool)} (h : ∀ p ∈ l, p.1 ≠ t) : newsOf t l = [] := by
  rw [newsOf, List.filter_eq_nil_iff.2 fun p hp => by simpa using h p hp, List.map_nil]

theorem mem_newsOf {l : List (Txid × Bool)} {b : Bool} : b ∈ newsOf t l ↔ (t, b) ∈ l := by
  simp [newsOf]

/-- Of an id that is told as gone among others, nothing else is said. -/
theorem newsOf_gone {ids : List Txid} (hnodup : ids.Nodup) (ht : t ∈ ids) :
    newsOf t (ids.map fun id => (id, false)) = [false] := by
  induction ids with
  | nil => cases ht
  | cons id rest ih =>
    obtain ⟨hid, hrest⟩ := List.nodup_cons.1 hnodup
    rw [List.map_cons, ← List.singleton_append, newsOf_append]
    by_cases he : t = id
    · subst he
      rw [newsOf_singleton, newsOf_eq_nil, List.append_nil]
      rintro _ hp rfl
      obtain ⟨id', hid', rfl⟩ := List.mem_map.1 hp
      exact hid hid'
    · have ht' : t ∈ rest := (List.mem_cons.1 ht).resolve_left he
      rw [newsOf_eq_nil (by simpa using Ne.symm he), ih hrest ht', List.nil_append]

end

/-- The ids that are still to be asked for differ, and none of them is tracked. -/
structure Hub.Listening (h : Hub) : Prop where
  nodup : h.pending.Nodup
  untracked : ∀ id ∈ h.pending, id ∉ h.tracker

namespace Connection

open Client

/-- What a step has to do with one id: nothing, or the id is told as gone, or asked for in vain, or
asked for and announced. -/
inductive News (t : Txid) (c : Connection) (a : Action) : Prop where
  | quiet (hchanges : newsOf t (c.changesAt a) = []) (hfetches : newsOf t (c.fetchesAt a) = [])
      (htracker : t ∈ (c.step a).hub.tracker ↔ t ∈ c.hub.tracker)
      (hlisted : t ∈ c.hub.tracker → ∀ listing ∈ c.listingsAt a, t ∈ listing)
  | gone (hchanges : newsOf t (c.changesAt a) = [false]) (hfetches : newsOf t (c.fetchesAt a) = [])
      (hbefore : t ∈ c.hub.tracker) (hafter : t ∉ (c.step a).hub.tracker)
      (hlisting : ∃ listing ∈ c.listingsAt a, t ∉ listing)
  | refused (hchanges : newsOf t (c.changesAt a) = [])
      (hfetches : newsOf t (c.fetchesAt a) = [false]) (hbefore : t ∉ c.hub.tracker)
      (hafter : t ∉ (c.step a).hub.tracker)
  | announced (hchanges : newsOf t (c.changesAt a) = [true])
      (hfetches : newsOf t (c.fetchesAt a) = [true]) (hbefore : t ∉ c.hub.tracker)
      (hafter : t ∈ (c.step a).hub.tracker)

section
variable {c : Connection} {a : Action}

theorem listening_step (h : c.hub.Listening) (ha : a.IsFaithful) :
    (c.step a).hub.Listening := by
  have hidle (hpending : (c.step a).hub.pending = []) : (c.step a).hub.Listening :=
    ⟨by rw [hpending]; exact List.nodup_nil, by rw [hpending]; exact fun _ hid => nomatch hid⟩
  cases c.mempool_step a with
  | rest htracker hpending =>
    exact ⟨by rw [hpending]; exact h.nodup, by rw [hpending, htracker]; exact h.untracked⟩
  | pushed e hpush he =>
    subst hpush
    obtain ⟨b, rfl⟩ := ha
    cases he
  | listed listing _ htracker hpending =>
    obtain hpending | hpending := hpending
    · refine ⟨by rw [hpending]; exact Delta.nodup_fresh _ _, fun id hid htracked => ?_⟩
      rw [hpending] at hid
      exact (Delta.mem_fresh.1 hid).2 ((htracker id).1 htracked).1
    · exact hidle hpending
  | failed id rest hasked htracker hpending =>
    obtain hpending | hpending := hpending
    · have hnodup := h.nodup
      rw [hasked, List.nodup_cons] at hnodup
      refine ⟨by rw [hpending]; exact hnodup.2, fun id' hid' => ?_⟩
      rw [htracker]
      exact h.untracked id' (by rw [hasked, ← hpending]; exact List.mem_cons_of_mem _ hid')
    · exact hidle hpending
  | arrived id rest t source hfetch ht hasked htracker hpending =>
    subst hfetch
    obtain hpending | hpending := hpending
    · have hnodup := h.nodup
      rw [hasked, List.nodup_cons] at hnodup
      refine ⟨by rw [hpending]; exact hnodup.2, fun id' hid' => ?_⟩
      rw [hpending] at hid'
      rw [htracker, Distinct.mem_insert, ha id t ht, not_or]
      refine ⟨h.untracked id' (by rw [hasked]; exact List.mem_cons_of_mem _ hid'), ?_⟩
      rintro rfl
      exact hnodup.1 hid'
    · exact hidle hpending

theorem news_step (h : c.hub.Listening) (ha : a.IsFaithful) (t : Txid) : News t c a := by
  cases c.mempool_step a with
  | rest htracker _ hchanges hlistings hfetches =>
    refine .quiet (by rw [hchanges]; rfl) (by rw [hfetches]; rfl) (by rw [htracker]) fun _ => ?_
    rw [hlistings]
    exact fun _ hl => nomatch hl
  | pushed e hpush he =>
    subst hpush
    obtain ⟨b, rfl⟩ := ha
    cases he
  | listed listing hchanges htracker _ hlistings hfetches =>
    have hnone : newsOf t (c.fetchesAt a) = [] := by
      rw [hfetches]
      rfl
    by_cases hgone : t ∈ c.hub.tracker ∧ t ∉ listing
    · refine .gone ?_ hnone hgone.1 (fun ht => hgone.2 ((htracker t).1 ht).2) ⟨listing, ?_, hgone.2⟩
      · rw [hchanges]
        exact newsOf_gone (Delta.nodup_removed _ _) (Delta.mem_removed.2 hgone)
      · rw [hlistings]
        exact List.mem_singleton_self listing
    · refine .quiet ?_ hnone ?_ fun ht => ?_
      · rw [hchanges]
        refine newsOf_eq_nil ?_
        rintro _ hp rfl
        obtain ⟨id, hid, rfl⟩ := List.mem_map.1 hp
        exact hgone (Delta.mem_removed.1 hid)
      · rw [htracker]
        exact and_iff_left_of_imp fun ht => by_contra fun hl => hgone ⟨ht, hl⟩
      · rw [hlistings]
        rintro _ hl
        rw [List.mem_singleton.1 hl]
        exact by_contra fun hl => hgone ⟨ht, hl⟩
  | failed id rest hasked htracker _ hchanges hlistings hfetches =>
    by_cases he : t = id
    · subst he
      have hout := h.untracked t (by rw [hasked]; exact List.mem_cons_self)
      exact .refused (by rw [hchanges]; rfl) (by rw [hfetches, newsOf_singleton]) hout
        (by rwa [htracker])
    · refine .quiet (by rw [hchanges]; rfl) ?_ (by rw [htracker]) fun _ => ?_
      · rw [hfetches]
        exact newsOf_eq_nil (by simpa using Ne.symm he)
      · rw [hlistings]
        exact fun _ hl => nomatch hl
  | arrived id rest tx source hfetch htx hasked htracker _ hchanges hlistings hfetches =>
    have hid : tx.txid = id := by
      subst hfetch
      exact ha id tx htx
    by_cases he : t = id
    · subst he
      have hout := h.untracked t (by rw [hasked]; exact List.mem_cons_self)
      refine .announced ?_ (by rw [hfetches, newsOf_singleton]) hout ?_
      · rw [hchanges, hid, newsOf_singleton]
      · rw [htracker, hid]
        exact Distinct.mem_insert.2 (.inr rfl)
    · refine .quiet ?_ ?_ ?_ fun _ => ?_
      · rw [hchanges, hid]
        exact newsOf_eq_nil (by simpa using Ne.symm he)
      · rw [hfetches]
        exact newsOf_eq_nil (by simpa using Ne.symm he)
      · rw [htracker, hid, Distinct.mem_insert]
        exact or_iff_left he
      · rw [hlistings]
        exact fun _ hl => nomatch hl

theorem News.mem_tracker {t : Txid} (h : News t c a) : t ∈ (c.step a).hub.tracker ↔
    (t, true) ∈ c.changesAt a ∨ t ∈ c.hub.tracker ∧ ∀ listing ∈ c.listingsAt a, t ∈ listing := by
  rw [← mem_newsOf]
  cases h with
  | quiet hchanges _ htracker hlisted =>
    rw [hchanges, htracker]
    exact ⟨fun ht => .inr ⟨ht, hlisted ht⟩, fun ht => ht.elim (fun h => nomatch h) And.left⟩
  | gone hchanges _ _ hafter hlisting =>
    obtain ⟨listing, hl, ht⟩ := hlisting
    rw [hchanges]
    refine iff_of_false hafter ?_
    rintro (h | h)
    · exact absurd (List.mem_singleton.1 h) Bool.false_ne_true.symm
    · exact ht (h.2 listing hl)
  | refused hchanges _ hbefore hafter =>
    rw [hchanges]
    exact iff_of_false hafter fun h => h.elim (fun h => nomatch h) fun h => hbefore h.1
  | announced hchanges _ _ hafter =>
    rw [hchanges]
    exact iff_of_true hafter (.inl (List.mem_singleton_self true))

/-- An id is told as gone exactly if it is tracked and a listing lacks it. -/
theorem News.gone_iff {t : Txid} (h : News t c a) : (t, false) ∈ c.changesAt a ↔
    t ∈ c.hub.tracker ∧ ∃ listing ∈ c.listingsAt a, t ∉ listing := by
  rw [← mem_newsOf]
  cases h with
  | quiet hchanges _ _ hlisted =>
    rw [hchanges]
    exact ⟨fun h => (nomatch h), fun ⟨ht, listing, hl, hnot⟩ => absurd (hlisted ht listing hl) hnot⟩
  | gone hchanges _ hbefore _ hlisting =>
    rw [hchanges]
    exact iff_of_true (List.mem_singleton_self false) ⟨hbefore, hlisting⟩
  | refused hchanges _ hbefore =>
    rw [hchanges]
    exact ⟨fun h => (nomatch h), fun ⟨ht, _⟩ => absurd ht hbefore⟩
  | announced hchanges _ hbefore =>
    rw [hchanges]
    exact ⟨fun h => absurd (List.mem_singleton.1 h) Bool.false_ne_true, fun ⟨ht, _⟩ =>
      absurd ht hbefore⟩

end

/-- The run announces the id, and every listing that it hears afterwards has the id. -/
def Announced (t : Txid) (c : Connection) (actions : List Action) : Prop :=
  ∃ earlier a later, actions = earlier ++ a :: later ∧ (t, true) ∈ (c.run earlier).changesAt a ∧
    ∀ listing ∈ ((c.run earlier).step a).trace listingsAt later, t ∈ listing

section
variable {c : Connection} {actions : List Action} {t : Txid}

theorem announced_cons {a : Action} {rest : List Action} : Announced t c (a :: rest) ↔
    (t, true) ∈ c.changesAt a ∧ (∀ listing ∈ (c.step a).trace listingsAt rest, t ∈ listing) ∨
      Announced t (c.step a) rest := by
  constructor
  · rintro ⟨_ | ⟨a', earlier⟩, b, later, heq, hchange, hlisted⟩
    · cases heq
      exact .inl ⟨hchange, hlisted⟩
    · cases heq
      exact .inr ⟨earlier, b, later, rfl, hchange, hlisted⟩
  · rintro (⟨hchange, hlisted⟩ | ⟨earlier, b, later, rfl, hchange, hlisted⟩)
    · exact ⟨[], a, rest, rfl, hchange, hlisted⟩
    · exact ⟨a :: earlier, b, later, rfl, hchange, hlisted⟩

section
variable (h : c.hub.Listening) (hall : ∀ a ∈ actions, a.IsFaithful)
include h hall

theorem listening_run : (c.run actions).hub.Listening := by
  induction actions generalizing c with
  | nil => exact h
  | cons a rest ih =>
    exact ih (listening_step h (hall a List.mem_cons_self))
      fun b hb => hall b (List.mem_cons_of_mem _ hb)

/-- What is told of an id changes with every event, and says at the end whether it is tracked. -/
theorem changes_alternate (t : Txid) :
    (decide (t ∈ c.hub.tracker) :: newsOf t (c.trace changesAt actions)).IsChain (· ≠ ·) := by
  induction actions generalizing c with
  | nil => exact .singleton _
  | cons a rest ih =>
    have hlater := ih (listening_step h (hall a List.mem_cons_self))
      fun b hb => hall b (List.mem_cons_of_mem _ hb)
    rw [trace_cons, newsOf_append]
    cases news_step h (hall a List.mem_cons_self) t with
    | quiet hchanges _ htracker =>
      rw [hchanges, List.nil_append]
      rwa [decide_eq_decide.2 htracker] at hlater
    | gone hchanges _ hbefore hafter =>
      rw [decide_eq_false hafter] at hlater
      rw [hchanges, decide_eq_true hbefore]
      exact .cons_cons Bool.false_ne_true.symm hlater
    | refused hchanges _ hbefore hafter =>
      rw [decide_eq_false hafter] at hlater
      rw [hchanges, decide_eq_false hbefore]
      exact hlater
    | announced hchanges _ hbefore hafter =>
      rw [decide_eq_true hafter] at hlater
      rw [hchanges, decide_eq_false hbefore]
      exact .cons_cons Bool.false_ne_true hlater

/-- An id is tracked if it has been announced, or was tracked before, and no listing has lacked it
since. -/
theorem mem_tracker_run (t : Txid) : t ∈ (c.run actions).hub.tracker ↔ Announced t c actions ∨
    t ∈ c.hub.tracker ∧ ∀ listing ∈ c.trace listingsAt actions, t ∈ listing := by
  induction actions generalizing c with
  | nil => simp [Announced]
  | cons a rest ih =>
    have hnews := news_step h (hall a List.mem_cons_self) t
    rw [run_cons, ih (listening_step h (hall a List.mem_cons_self))
      fun b hb => hall b (List.mem_cons_of_mem _ hb), hnews.mem_tracker, announced_cons]
    simp only [trace_cons, List.mem_append, or_imp, forall_and]
    tauto

/-- A tracked id is not asked for as long as every listing has it. -/
theorem fetches_of_tracked (htracked : t ∈ c.hub.tracker)
    (hlisted : ∀ listing ∈ c.trace listingsAt actions, t ∈ listing) :
    newsOf t (c.trace fetchesAt actions) = [] := by
  induction actions generalizing c with
  | nil => rfl
  | cons a rest ih =>
    rw [trace_cons, newsOf_append]
    have hlater (hafter : t ∈ (c.step a).hub.tracker) :
        newsOf t ((c.step a).trace fetchesAt rest) = [] :=
      ih (listening_step h (hall a List.mem_cons_self))
        (fun b hb => hall b (List.mem_cons_of_mem _ hb)) hafter
        fun listing hl => hlisted listing (List.mem_append_right _ hl)
    cases news_step h (hall a List.mem_cons_self) t with
    | quiet _ hfetches htracker => rw [hfetches, hlater (htracker.2 htracked), List.nil_append]
    | gone _ _ _ _ hlisting =>
      obtain ⟨listing, hl, hnot⟩ := hlisting
      exact absurd (hlisted listing (List.mem_append_left _ hl)) hnot
    | refused _ _ hbefore => exact absurd htracked hbefore
    | announced _ _ hbefore => exact absurd htracked hbefore

/-- As long as every listing has it, an id is asked for in vain a number of times, then maybe once
with success, and then no more. -/
theorem fetches_of_listed (hlisted : ∀ listing ∈ c.trace listingsAt actions, t ∈ listing) :
    ∃ n, newsOf t (c.trace fetchesAt actions) = List.replicate n false ∨
      newsOf t (c.trace fetchesAt actions) = List.replicate n false ++ [true] := by
  induction actions generalizing c with
  | nil => exact ⟨0, .inl rfl⟩
  | cons a rest ih =>
    have hstep := listening_step h (hall a List.mem_cons_self)
    have hrest : ∀ b ∈ rest, b.IsFaithful := fun b hb => hall b (List.mem_cons_of_mem _ hb)
    have hlater : ∀ listing ∈ (c.step a).trace listingsAt rest, t ∈ listing :=
      fun listing hl => hlisted listing (List.mem_append_right _ hl)
    obtain ⟨n, hn⟩ := ih hstep hrest hlater
    rw [trace_cons, newsOf_append]
    cases news_step h (hall a List.mem_cons_self) t with
    | quiet _ hfetches =>
      rw [hfetches, List.nil_append]
      exact ⟨n, hn⟩
    | gone _ hfetches =>
      rw [hfetches, List.nil_append]
      exact ⟨n, hn⟩
    | refused _ hfetches =>
      rw [hfetches, List.singleton_append]
      exact ⟨n + 1, hn.imp (congrArg (false :: ·)) (congrArg (false :: ·))⟩
    | announced _ hfetches _ hafter =>
      rw [hfetches, fetches_of_tracked hstep hrest hafter hlater]
      exact ⟨0, .inr rfl⟩

end

end

/-- A step lets a client tell of no unconfirmed transaction more than those that it hands out. -/
theorem additions_step {c : Connection} {told : List Transaction}
    (h : ∀ x ∈ c.hub.clients, x.additions.Sublist told) (a : Action) :
    ∀ y ∈ (c.step a).hub.clients,
      y.additions.Sublist (told ++ (c.dispatched a).filterMap Event.added?) := by
  intro y hmem
  obtain ⟨slot, hy⟩ := List.mem_iff_getElem?.1 hmem
  cases hx : c.hub.clients[slot]? with
  | none =>
    obtain ⟨_, _, _, rfl⟩ := newClient_of_free slot c hx hy
    exact List.nil_sublist _
  | some x =>
    have hold : x.additions.Sublist told := h x (List.mem_of_getElem? hx)
    by_cases hadded : ∃ t, .transactionAdded t ∈ c.dispatched a
    · obtain ⟨t, ht⟩ := hadded
      have hnew : [t].Sublist ((c.dispatched a).filterMap Event.added?) :=
        List.singleton_sublist.2 (List.mem_filterMap.2 ⟨_, ht, rfl⟩)
      rw [c.clients_of_added ht, List.getElem?_map, hx] at hy
      obtain rfl := Option.some.inj hy
      obtain ⟨_, _, _, ho⟩ | ⟨_, ho⟩ :=
        x.offer_cases (fun x => x.wantsTransaction t) (.transactionAdded t)
      · rw [ho, additions_deliver]
        exact hold.append hnew
      · rw [ho]
        exact hold.trans (List.sublist_append_left _ _)
    · have hevent : ∀ t, ¬ (c.inputs slot a).event (.transactionAdded t) :=
        fun t ht => hadded ⟨t, ht⟩
      have hkept : y.additions.Sublist x.additions := by
        cases clientStep_of_getElem? hx hy with
        | moves _ hm =>
          exact hm.keep (P := fun z => z.additions.Sublist x.additions)
            (fun hm hz => (hm.additions hevent).trans hz) (.refl _)
        | watchScript s => exact .refl _
        | watchOutpoints l => exact .refl _
        | receiveTransaction t =>
          by_cases ht : t.txid ∈ x.mirror
          · rw [receiveTransaction_of_mem ht]
          · rw [receiveTransaction_of_not_mem ht]
            exact .refl _
        | receiveBlock b =>
          by_cases hp : x.best.Precedes b.height
          · rw [received_of_precedes hp]
            exact .refl _
          · rw [received_of_not_precedes hp]
      exact (hkept.trans hold).trans (List.sublist_append_left _ _)

theorem additions_run {c : Connection} {told : List Transaction}
    (h : ∀ x ∈ c.hub.clients, x.additions.Sublist told) (actions : List Action) :
    ∀ y ∈ (c.run actions).hub.clients,
      y.additions.Sublist (told ++ (c.trace dispatched actions).filterMap Event.added?) := by
  induction actions generalizing c told with
  | nil => simpa using h
  | cons a rest ih =>
    have hrest := ih (additions_step h a)
    rwa [trace_cons, List.filterMap_append, ← List.append_assoc]

def sampleCoin : Transaction := ⟨2, [⟨⟨.zero, 7⟩, [], 0xffffffff, []⟩], [⟨50000, [4]⟩], 0⟩

/-- The transaction is listed twice and refused, then fetched, then gone, and then back. -/
def twoStays : List Action :=
  [.newClient, .notifyAllMempool 0, .startClient 0, .start, .tickTransactions,
    .answerTxPoller (.holding [sampleCoin, sampleCoin]), .answerTxPoller .silent, .tickTransactions,
    .answerTxPoller (.holding [sampleCoin, sampleCoin]), .answerTxPoller (.holding [sampleCoin]),
    .handle 0, .tickTransactions, .answerTxPoller (.holding []), .handle 0, .tickTransactions,
    .answerTxPoller (.holding [sampleCoin]), .answerTxPoller (.holding [sampleCoin]), .handle 0]

end Connection

end ChainFeed
