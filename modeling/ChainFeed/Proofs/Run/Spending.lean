import ChainFeed.Proofs.Client.Learning
import ChainFeed.Proofs.Run.BlockStep

/-!
# Spends of payments to a watched script

The fan-out decides by the watch-list as it is, and the outpoint of a payment is on the watch-list
only when the handler has taken the payment out of the inbox. A spend that is handed out in between
is missed, unless it concerns the client for another reason.
-/

namespace ChainFeed.Connection

open Client

/-- The transactions that the subscriber of the client at `slot` is told of in a step. -/
def toldAt (slot : Nat) (c : Connection) (a : Action) : List Transaction :=
  match c.hub.clients[slot]?, (c.step a).hub.clients[slot]? with
  | some x, some y => (y.sent.drop x.sent.length).filterMap Notification.told?
  | _, _ => []

/-- The transactions that a step hands to a client past its inbox and that the client follows. -/
def takenAt (slot : Nat) (x : Client) : Action → List Transaction
  | .receiveTransaction n t => if n = slot ∧ t.txid ∉ x.mirror then [t] else []
  | .receiveBlock n b =>
    if n = slot ∧ x.best.Precedes b.height then (x.watch.filterBlock b.block).2 else []
  | _ => []

/-- The outpoints that the client at `slot` learns in a step: those that the subscriber gives, and
those of the transactions that the client tells of or is handed that pay a watched script. -/
def learnedAt (slot : Nat) (c : Connection) (a : Action) : List OutPoint :=
  match c.hub.clients[slot]? with
  | none => []
  | some x =>
    (match a with
      | .watchOutpoints n l => if n = slot then l else []
      | _ => []) ++
      (takenAt slot x a ++ toldAt slot c a).flatMap x.watch.paidBy

section
variable {c : Connection} {slot : Nat} {x y : Client} {a : Action}

theorem takenAt_of_not_reaches (ha : a.reaches slot = false) : takenAt slot x a = [] := by
  cases a with
  | receiveTransaction n t => exact if_neg (fun h => of_decide_eq_false ha h.1)
  | receiveBlock n b => exact if_neg (fun h => of_decide_eq_false ha h.1)
  | _ => rfl

theorem toldAt_of_sent_eq (hx : c.hub.clients[slot]? = some x)
    (hy : (c.step a).hub.clients[slot]? = some y) (hs : y.sent = x.sent) :
    toldAt slot c a = [] := by
  simp only [toldAt, hx, hy, hs, List.drop_length, List.filterMap_nil]

/-- A client watches after a step what it watched before and what it has learned. -/
theorem mem_outpoints_step (hx : c.hub.clients[slot]? = some x)
    (hy : (c.step a).hub.clients[slot]? = some y) (o : OutPoint) :
    o ∈ y.watch.outpoints ↔ o ∈ x.watch.outpoints ∨ o ∈ learnedAt slot c a := by
  cases clientStep_of_getElem? hx hy with
  | moves ha hm =>
    obtain ⟨l, hl⟩ := hm.learned
    have htold : toldAt slot c a = l.filterMap Notification.told? := by
      simp only [toldAt, hx, hy, hl.sent, List.drop_left]
    have hgiven : (match a with
        | .watchOutpoints n l => if n = slot then l else []
        | _ => []) = [] := by
      cases a with
      | watchOutpoints n l => exact if_neg (of_decide_eq_false ha)
      | _ => rfl
    rw [hl.outpoints]
    simp only [learnedAt, hx, hgiven, takenAt_of_not_reaches ha, htold, List.nil_append,
      List.mem_flatMap]
  | watchScript s =>
    simp only [learnedAt, hx, takenAt, toldAt_of_sent_eq hx hy rfl, List.nil_append,
      List.flatMap_nil, List.not_mem_nil, or_false]
    rfl
  | watchOutpoints l =>
    simp only [learnedAt, hx, takenAt, toldAt_of_sent_eq hx hy rfl, List.append_nil,
      List.flatMap_nil, if_true]
    exact Distinct.mem_insertAll
  | receiveTransaction t =>
    by_cases ht : t.txid ∈ x.mirror
    · rw [receiveTransaction_of_mem ht] at hy ⊢
      simp only [learnedAt, hx, takenAt, toldAt_of_sent_eq hx hy rfl, ht, not_true, and_false,
        if_false, List.nil_append, List.flatMap_nil, List.not_mem_nil, or_false]
    · rw [receiveTransaction_of_not_mem ht] at hy ⊢
      simp only [learnedAt, hx, takenAt, toldAt_of_sent_eq hx hy rfl, ht, not_false_eq_true,
        and_self, if_true, List.nil_append, List.append_nil, List.flatMap_singleton]
      exact WatchList.mem_outpoints_follow
  | receiveBlock b =>
    by_cases hp : x.best.Precedes b.height
    · rw [received_of_precedes hp] at hy ⊢
      simp only [learnedAt, hx, takenAt, toldAt_of_sent_eq hx hy rfl, hp, and_self, if_true,
        List.nil_append, List.append_nil, List.mem_flatMap]
      exact x.watch.mem_outpoints_filterBlock b.block o
    · rw [received_of_not_precedes hp] at hy ⊢
      simp only [learnedAt, hx, takenAt, toldAt_of_sent_eq hx hy rfl, hp, and_false, if_false,
        List.nil_append, List.flatMap_nil, List.not_mem_nil, or_false]

/-- No watched script is lost. -/
theorem mem_scripts_step (hx : c.hub.clients[slot]? = some x)
    (hy : (c.step a).hub.clients[slot]? = some y) {s : Script} (hs : s ∈ x.watch.scripts) :
    s ∈ y.watch.scripts := by
  cases clientStep_of_getElem? hx hy with
  | moves _ hm =>
    obtain ⟨l, hl⟩ := hm.learned
    rwa [hl.scripts]
  | watchScript s' => exact Distinct.mem_insert.2 (.inl hs)
  | watchOutpoints l => exact hs
  | receiveTransaction t =>
    by_cases ht : t.txid ∈ x.mirror
    · rwa [receiveTransaction_of_mem ht]
    · rwa [receiveTransaction_of_not_mem ht]
  | receiveBlock b =>
    by_cases hp : x.best.Precedes b.height
    · rw [received_of_precedes hp]
      exact (x.watch.scripts_filterBlock b.block).symm ▸ hs
    · rwa [received_of_not_precedes hp]

end

/-- Over a run a client comes to watch what it learns, and loses nothing. -/
theorem mem_outpoints_run {c : Connection} {slot : Nat} {x y : Client} {actions : List Action}
    (hx : c.hub.clients[slot]? = some x) (hy : (c.run actions).hub.clients[slot]? = some y)
    (o : OutPoint) :
    o ∈ y.watch.outpoints ↔ o ∈ x.watch.outpoints ∨ o ∈ c.trace (learnedAt slot) actions := by
  induction actions generalizing c x with
  | nil =>
    obtain rfl : x = y := Option.some.inj (hx.symm.trans hy)
    simp
  | cons a rest ih =>
    obtain ⟨z, hz, _⟩ := c.step_client slot a hx
    rw [ih hz hy, mem_outpoints_step hx hz, trace_cons, List.mem_append, or_assoc]

/-- What the subscriber is told of with an output that pays a watched script, the client learns. -/
theorem learned_of_told {c : Connection} {slot : Nat} {x : Client} {actions : List Action}
    {t : Transaction} {k : Nat} {out : TxOut} (hx : c.hub.clients[slot]? = some x)
    (hk : t.outputs[k]? = some out) (hs : out.script ∈ x.watch.scripts)
    (ht : t ∈ c.trace (toldAt slot) actions) :
    ⟨t.txid, k.toUInt32⟩ ∈ c.trace (learnedAt slot) actions := by
  induction actions generalizing c x with
  | nil => cases ht
  | cons a rest ih =>
    rw [trace_cons, List.mem_append] at ht ⊢
    obtain hnow | hlater := ht
    · refine .inl ?_
      simp only [learnedAt, hx]
      exact List.mem_append_right _ (List.mem_flatMap.2
        ⟨t, List.mem_append_right _ hnow, WatchList.mem_paidBy hk hs⟩)
    · obtain ⟨z, hz, _⟩ := c.step_client slot a hx
      exact .inr (ih hz (mem_scripts_step hx hz hs) hlater)

/-- An addition reaches a client that is in the fan-out, runs and has room if and only if it
concerns the client. -/
theorem delivered_iff_wants {c : Connection} {slot : Nat} {x : Client} {a : Action}
    {t : Transaction} (hx : c.hub.clients[slot]? = some x) (hregistered : x.registered = true)
    (hstopped : x.isStopped = false) (hroom : x.inbox.length < x.capacity)
    (ht : .transactionAdded t ∈ c.dispatched a) :
    (c.step a).hub.clients[slot]? =
        some { x with inbox := x.inbox ++ [.transactionAdded t] } ↔
      x.wantsTransaction t = true := by
  have hslot : (c.step a).hub.clients[slot]? = some (x.offer (fun y => y.wantsTransaction t)
      (.transactionAdded t)) := by
    rw [c.clients_of_added ht, List.getElem?_map, hx, Option.map_some]
  rw [hslot]
  obtain ⟨ha, _, _, h⟩ | ⟨hnot, h⟩ := x.offer_cases (fun y => y.wantsTransaction t)
    (.transactionAdded t)
  · rw [h]
    simp only [isAddressed, hregistered, Bool.true_and] at ha
    exact ⟨fun _ => ha, fun _ => rfl⟩
  · rw [h]
    constructor
    · intro he
      have hlength := congrArg List.length (congrArg Client.inbox (Option.some.inj he))
      simp at hlength
    · intro hw
      exact absurd ⟨by simp [isAddressed, hregistered, hw], hstopped, hroom⟩ hnot

theorem wantsTransaction_iff {x : Client} {t : Transaction} : x.wantsTransaction t = true ↔
    x.wantsAll = true ∨ (∃ out ∈ t.outputs, out.script ∈ x.watch.scripts) ∨
      ∃ i ∈ t.inputs, i.spends ∈ x.watch.outpoints := by
  simp only [wantsTransaction, WatchList.hits, Bool.or_eq_true, List.any_eq_true,
    decide_eq_true_eq]
  exact or_congr Iff.rfl or_comm

/-- A payment to a watched script is delivered. A later spend of it is delivered if and only if the
client by then wants every transaction, or the spend pays a watched script, or the outpoint of one
of its inputs was watched already or has been learned since. The outpoint of the payment has been
learned if the subscriber has been told of the payment. -/
theorem spend_delivered_iff_learned {c : Connection} {slot : Nat} {x y : Client} {a b : Action}
    {mid : List Action} {payment spend : Transaction} {out : TxOut} {k : Nat}
    (hx : c.hub.clients[slot]? = some x) (hxregistered : x.registered = true)
    (hxstopped : x.isStopped = false) (hxroom : x.inbox.length < x.capacity)
    (hpayment : .transactionAdded payment ∈ c.dispatched a)
    (hout : payment.outputs[k]? = some out) (hwatched : out.script ∈ x.watch.scripts)
    (hy : ((c.step a).run mid).hub.clients[slot]? = some y) (hyregistered : y.registered = true)
    (hystopped : y.isStopped = false) (hyroom : y.inbox.length < y.capacity)
    (hspend : .transactionAdded spend ∈ ((c.step a).run mid).dispatched b)
    (hinput : ∃ i ∈ spend.inputs, i.spends = ⟨payment.txid, k.toUInt32⟩) :
    let delivered := (((c.step a).run mid).step b).hub.clients[slot]? =
      some { y with inbox := y.inbox ++ [.transactionAdded spend] }
    (c.step a).hub.clients[slot]? =
        some { x with inbox := x.inbox ++ [.transactionAdded payment] } ∧
      (delivered ↔ y.wantsAll = true ∨ (∃ out ∈ spend.outputs, out.script ∈ y.watch.scripts) ∨
        ∃ i ∈ spend.inputs, i.spends ∈ x.watch.outpoints ∨
          i.spends ∈ (c.step a).trace (learnedAt slot) mid) ∧
      (payment ∈ (c.step a).trace (toldAt slot) mid → delivered) := by
  intro delivered
  have hwants : x.wantsTransaction payment = true :=
    wantsTransaction_iff.2 (.inr (.inl ⟨out, List.mem_of_getElem? hout, hwatched⟩))
  have hfirst := (delivered_iff_wants hx hxregistered hxstopped hxroom hpayment).2 hwants
  have hlearned := mem_outpoints_run hfirst hy
  have hiff : delivered ↔ y.wantsAll = true ∨
      (∃ out ∈ spend.outputs, out.script ∈ y.watch.scripts) ∨
      ∃ i ∈ spend.inputs, i.spends ∈ x.watch.outpoints ∨
        i.spends ∈ (c.step a).trace (learnedAt slot) mid := by
    refine (delivered_iff_wants hy hyregistered hystopped hyroom hspend).trans ?_
    rw [wantsTransaction_iff]
    simp only [hlearned]
  refine ⟨hfirst, hiff, fun htold => ?_⟩
  obtain ⟨i, hi, hspends⟩ := hinput
  refine hiff.2 (.inr (.inr ⟨i, hi, .inr ?_⟩))
  rw [hspends]
  exact learned_of_told hfirst hout hwatched htold

/-- Pays the script `[4]`. -/
def samplePayment : Transaction := ⟨2, [⟨⟨.zero, 7⟩, [], 0xffffffff, []⟩], [⟨50000, [4]⟩], 0⟩

def sampleSpend : Transaction :=
  ⟨2, [⟨⟨samplePayment.txid, 0⟩, [], 0xffffffff, []⟩], [⟨49000, [5]⟩], 0⟩

/-- A connection with one client, which watches the script `[4]`. -/
def watchingSample : Connection :=
  (opened .standard ⟨5, .zero⟩).run [.newClient, .watchScript 0 [4], .startClient 0]

theorem watchingSample_client : ∃ x, watchingSample.hub.clients[0]? = some x ∧
    x.registered = true ∧ x.isStopped = false ∧ x.inbox.length < x.capacity ∧
    [4] ∈ x.watch.scripts :=
  ⟨_, rfl, rfl, rfl, by decide, by decide⟩

theorem spend_after_handled_payment_is_delivered :
    ∃ y, (watchingSample.run [.push (.transactionAdded samplePayment), .handle 0]).hub.clients[0]? =
        some y ∧
      (watchingSample.run [.push (.transactionAdded samplePayment), .handle 0,
        .push (.transactionAdded sampleSpend)]).hub.clients[0]? =
          some { y with inbox := y.inbox ++ [.transactionAdded sampleSpend] } := by
  obtain ⟨x, hx, hxr, hxs, hxroom, hwatched⟩ := watchingSample_client
  obtain ⟨y, hy, hyr, hys, hyroom⟩ : ∃ y, ((watchingSample.step
      (.push (.transactionAdded samplePayment))).run [.handle 0]).hub.clients[0]? = some y ∧
      y.registered = true ∧ y.isStopped = false ∧ y.inbox.length < y.capacity :=
    ⟨_, rfl, rfl, rfl, by decide⟩
  have htold : samplePayment ∈ (watchingSample.step
      (.push (.transactionAdded samplePayment))).trace (toldAt 0) [.handle 0] :=
    List.mem_singleton_self samplePayment
  have h := spend_delivered_iff_learned (k := 0) (b := .push (.transactionAdded sampleSpend)) hx hxr
    hxs hxroom (List.mem_singleton_self _) rfl hwatched hy hyr hys hyroom
    (List.mem_singleton_self _) ⟨_, List.mem_singleton_self _, rfl⟩
  exact ⟨y, hy, h.2.2 htold⟩

/-- A spend that is handed out while the payment waits in the inbox is missed. -/
theorem spend_of_waiting_payment_is_missed : ¬ ∀ (c : Connection) (slot k : Nat) (x y : Client)
    (a b : Action) (mid : List Action) (payment spend : Transaction) (out : TxOut),
    c.hub.clients[slot]? = some x → x.registered = true → x.isStopped = false →
    x.inbox.length < x.capacity → .transactionAdded payment ∈ c.dispatched a →
    payment.outputs[k]? = some out → out.script ∈ x.watch.scripts →
    ((c.step a).run mid).hub.clients[slot]? = some y → y.registered = true →
    y.isStopped = false → y.inbox.length < y.capacity →
    .transactionAdded spend ∈ ((c.step a).run mid).dispatched b →
    (∃ i ∈ spend.inputs, i.spends = ⟨payment.txid, k.toUInt32⟩) →
    (((c.step a).run mid).step b).hub.clients[slot]? =
      some { y with inbox := y.inbox ++ [.transactionAdded spend] } := by
  intro h
  obtain ⟨x, hx, hxr, hxs, hxroom, hwatched⟩ := watchingSample_client
  obtain ⟨y, hy, hyr, hys, hyroom, hlength⟩ : ∃ y, (watchingSample.step
      (.push (.transactionAdded samplePayment))).hub.clients[0]? = some y ∧
      y.registered = true ∧ y.isStopped = false ∧ y.inbox.length < y.capacity ∧
      y.inbox.length = 1 := ⟨_, rfl, rfl, rfl, by decide, rfl⟩
  have hmissed : ((watchingSample.step (.push (.transactionAdded samplePayment))).step
      (.push (.transactionAdded sampleSpend))).hub.clients[0]?.map (fun z => z.inbox.length) =
        some 1 := rfl
  have hall := h watchingSample 0 0 x y (.push (.transactionAdded samplePayment))
    (.push (.transactionAdded sampleSpend)) [] samplePayment sampleSpend ⟨50000, [4]⟩ hx hxr hxs
    hxroom (List.mem_singleton_self _) rfl hwatched hy hyr hys hyroom (List.mem_singleton_self _)
    ⟨_, List.mem_singleton_self _, rfl⟩
  rw [run_nil] at hall
  rw [hall, Option.map_some, Option.some.injEq, List.length_append, hlength] at hmissed
  cases hmissed

end ChainFeed.Connection
