import ChainFeed.Proofs.Client.Telling
import ChainFeed.Proofs.Run.ChainAgreement
import ChainFeed.Proofs.Run.Fanout
import ChainFeed.Proofs.Run.Recovery

/-!
# Blocks that overtake announcements

Additions and blocks that come by the inbox are taken in the order in which they have been handed
out, so a transaction is not announced after its block. A block that is fetched does not wait behind
the events of the inbox. If an addition of one of its transactions is among them, the transaction is
told of with the block first, and as unconfirmed when the handler comes to the addition: applying
the block has taken the transaction out of the mirror, so nothing holds the announcement back.
-/

namespace ChainFeed

/-- The event shows a transaction with this id, on its own or in a block. -/
def Event.Brings (id : Txid) : Event → Prop
  | .blockConnected b => id ∈ b.block.txids
  | .transactionAdded t => t.txid = id
  | .transactionRemoved _ => False

/-- No transaction is added after an event that has brought it already. -/
def Event.AddedFirst (l : List Event) : Prop :=
  l.Pairwise fun earlier later => ∀ t, later = .transactionAdded t → ¬ earlier.Brings t.txid

theorem Event.AddedFirst.not_adds {l m : List Event} (h : AddedFirst (l ++ m)) {e : Event}
    (he : e ∈ l) {id : Txid} (hid : e.Brings id) : ¬ Adds id m := by
  rintro ⟨t, rfl, ht⟩
  exact (List.pairwise_append.1 h).2.2 e he _ ht t rfl hid

/-- A block that is told of before an addition of one of its transactions is taken has been fetched:
a block from the inbox was in hand before every addition that can still be taken. -/
theorem Client.Justified.fetched {given : Input} {before after history later : List Event}
    {t : Transaction} {s : Stamp}
    (h : Justified given before after (.relevantTransaction t (some s)))
    (hhistory : before.Sublist history) (horder : Event.AddedFirst (history ++ later))
    (hadds : Event.Adds t.txid (after ++ later)) :
    ∃ block, given.answer s.height (.ok block) ∧ block.hash = s.hash ∧ t ∈ block.transactions := by
  rcases h t (some s) rfl with ⟨hunconfirmed, _⟩ | ⟨b, hstamp, hmem, hsource⟩
  · cases hunconfirmed
  · cases hstamp
    rcases hsource with hanswer | hinbox
    · exact ⟨b.block, hanswer, rfl, hmem⟩
    · have hsub : ([Event.blockConnected b] ++ (after ++ later)).Sublist (history ++ later) :=
        (hinbox.trans hhistory).append_right later
      have hfirst : Event.AddedFirst ([.blockConnected b] ++ (after ++ later)) :=
        horder.sublist hsub
      have hbrings : (Event.blockConnected b).Brings t.txid := List.mem_map_of_mem hmem
      exact absurd hadds (hfirst.not_adds (List.mem_singleton_self _) hbrings)

namespace Connection

open Client

/-- What the subscriber of the client at `slot` is told in a step. -/
def notesAt (slot : Nat) (c : Connection) (a : Action) : List Notification :=
  match c.hub.clients[slot]?, (c.step a).hub.clients[slot]? with
  | some x, some y => y.sent.drop x.sent.length
  | _, _ => []

section
variable {c : Connection} {slot : Nat} {a : Action} {x y : Client} {id : Txid}

theorem notesAt_eq (hx : c.hub.clients[slot]? = some x)
    (hy : (c.step a).hub.clients[slot]? = some y) {notes : List Notification}
    (hsent : y.sent = x.sent ++ notes) : c.notesAt slot a = notes := by
  simp only [notesAt, hx, hy, hsent, List.drop_left]

theorem notesAt_of_sent_eq (hx : c.hub.clients[slot]? = some x)
    (hy : (c.step a).hub.clients[slot]? = some y) (hsent : y.sent = x.sent) :
    c.notesAt slot a = [] :=
  notesAt_eq hx hy (by rw [hsent, List.append_nil])

theorem exists_of_mem_notesAt {n : Notification} (hn : n ∈ c.notesAt slot a) :
    ∃ x, c.hub.clients[slot]? = some x := by
  cases hx : c.hub.clients[slot]? with
  | none =>
    simp only [notesAt, hx] at hn
    cases hn
  | some x => exact ⟨x, rfl⟩

/-- A step in which something is told hands out nothing. -/
theorem justified_step (hx : c.hub.clients[slot]? = some x)
    (hy : (c.step a).hub.clients[slot]? = some y) {n : Notification}
    (hn : n ∈ c.notesAt slot a) :
    c.dispatched a = [] ∧ Justified (c.inputs slot a) x.hand y.hand n := by
  have hsilent (hsent : y.sent = x.sent) : n ∉ c.notesAt slot a := by
    rw [notesAt_of_sent_eq hx hy hsent]
    exact List.not_mem_nil
  rcases offered_or_clientStep hx hy with h | ⟨hnone, hstep⟩
  · obtain ⟨_, _, heq⟩ := x.offerAll_eq (c.dispatched a)
    exact absurd hn (hsilent (by rw [h, heq]))
  · refine ⟨hnone, ?_⟩
    cases hstep with
    | moves _ hm =>
      obtain ⟨notes, hsent, hjustified⟩ := hm.justified (not_given_of_dispatched hnone slot)
      rw [notesAt_eq hx hy hsent] at hn
      exact hjustified n hn
    | watchScript s => exact absurd hn (hsilent rfl)
    | watchOutpoints l => exact absurd hn (hsilent rfl)
    | receiveTransaction t => exact absurd hn (hsilent (x.sent_receiveTransaction t))
    | receiveBlock b => exact absurd hn (hsilent (x.sent_received b))

/-- A client goes on awaiting a transaction until it tells of it or is told to end. -/
theorem awaits_step (hx : c.hub.clients[slot]? = some x) (horderly : x.Orderly)
    (h : x.Awaits id) (hpast : ∀ t, a ≠ .receiveTransaction slot t)
    (hy : (c.step a).hub.clients[slot]? = some y) (hin : y.registered = true) :
    y.Awaits id ∨ ∃ n ∈ c.notesAt slot a, n.Announces id := by
  rcases offered_or_clientStep hx hy with rfl | ⟨_, hstep⟩
  · left
    obtain ⟨accepted, _, hhand⟩ := x.hand_offerAll (c.dispatched a)
    have hmirror : (x.offerAll (c.dispatched a)).mirror = x.mirror := by
      obtain ⟨_, _, heq⟩ := x.offerAll_eq (c.dispatched a)
      rw [heq]
    apply h.congr
    · exact fun _ hid => hmirror ▸ hid
    · intro e he
      rw [hhand]
      exact List.mem_append_left _ he
  · cases hstep with
    | moves _ hm =>
      obtain ⟨notes, hsent, hlater⟩ := h.moves horderly hm hin
      rwa [notesAt_eq hx hy hsent]
    | watchScript s => exact .inl (h.congr (fun _ hid => hid) fun _ he => he)
    | watchOutpoints l => exact .inl (h.congr (fun _ hid => hid) fun _ he => he)
    | receiveTransaction t => exact absurd rfl (hpast t)
    | receiveBlock b =>
      left
      apply h.congr (x.mirror_received b)
      rw [x.hand_received b]
      exact fun _ he => he

end

/-- What is announced has been in hand or has been handed out. -/
theorem adds_of_announced {c : Connection} {slot : Nat} {x : Client} {actions : List Action}
    {id : Txid} (hx : c.hub.clients[slot]? = some x)
    (h : ∃ n ∈ c.trace (notesAt slot) actions, n.Announces id) :
    Event.Adds id (x.hand ++ c.trace dispatched actions) := by
  induction actions generalizing c x with
  | nil =>
    obtain ⟨_, hn, _⟩ := h
    cases hn
  | cons a rest ih =>
    obtain ⟨n, hn, hannounces⟩ := h
    obtain ⟨y, hy, _⟩ := c.step_client slot a hx
    rw [trace_cons] at hn ⊢
    rcases List.mem_append.1 hn with hn | hn
    · obtain ⟨t, ht, rfl⟩ := hannounces
      obtain ⟨_, hjustified⟩ := justified_step hx hy hn
      rcases hjustified t none rfl with ⟨_, hadded⟩ | ⟨b, hnone, _⟩
      · exact ⟨t, ht, List.mem_append_left _ hadded⟩
      · cases hnone
    · obtain ⟨t, ht, hadded⟩ := ih hy ⟨n, hn, hannounces⟩
      refine ⟨t, ht, ?_⟩
      rw [← List.append_assoc]
      exact (((hand_step hx hy).append_right _).subset) hadded

theorem awaits_run {c : Connection} {slot : Nat} {x z : Client} {actions : List Action} {id : Txid}
    (hx : c.hub.clients[slot]? = some x) (horderly : x.Orderly) (h : x.Awaits id)
    (hpast : ∀ t, .receiveTransaction slot t ∉ actions)
    (hz : (c.run actions).hub.clients[slot]? = some z) (hin : z.registered = true) :
    z.Awaits id ∨ ∃ n ∈ c.trace (notesAt slot) actions, n.Announces id := by
  induction actions generalizing c x with
  | nil =>
    obtain rfl : x = z := Option.some.inj (hx.symm.trans hz)
    exact .inl h
  | cons a rest ih =>
    obtain ⟨y, hy, _⟩ := c.step_client slot a hx
    have hyin : y.registered = true := registered_of_run hy hz hin
    have hyorderly : y.Orderly := orderly_step (fun w hw => by
      obtain rfl : x = w := Option.some.inj (hx.symm.trans hw)
      exact horderly) hy
    have hfirst : ∀ t, a ≠ .receiveTransaction slot t := by
      rintro t rfl
      exact hpast t List.mem_cons_self
    rw [trace_cons]
    rcases awaits_step hx horderly h hfirst hy hyin with hawaits | ⟨n, hn, hannounces⟩
    · have hlater := ih hy hyorderly hawaits (fun t ht => hpast t (List.mem_cons_of_mem _ ht)) hz
      apply hlater.imp_right
      rintro ⟨n, hn, hannounces⟩
      exact ⟨n, List.mem_append_right _ hn, hannounces⟩
    · exact .inr ⟨n, List.mem_append_left _ hn, hannounces⟩

/-- A transaction that is told of with a fetched block is not in the mirror afterwards. -/
theorem not_mem_mirror_of_fetched {c : Connection} {slot : Nat} {a : Action} {x y : Client}
    {h : Height} {r : Except Error Block} (hanswer : (h, r) ∈ c.answersAt slot a)
    (hx : c.hub.clients[slot]? = some x) (hy : (c.step a).hub.clients[slot]? = some y)
    {t : Transaction} {s : Stamp}
    (htold : .relevantTransaction t (some s) ∈ c.notesAt slot a) : t.txid ∉ y.mirror := by
  obtain ⟨source, rfl, _⟩ := source_of_mem_answersAt hanswer
  obtain rfl : (x.resumeCatchUp (answerTo source x)).1 = y :=
    Option.some.inj ((step_answerClient hx source).symm.trans hy)
  cases hu : x.catchUp with
  | none =>
    rw [resumeCatchUp_of_none hu] at hy
    rw [notesAt_of_sent_eq hx hy rfl] at htold
    cases htold
  | some u =>
    have hworks : Works (fun _ => True) x (x.resumeCatchUp (answerTo source x)).1 :=
      works_resumeCatchUp hu fun _ _ => trivial
    obtain ⟨_, _, hconfirms⟩ := hworks
    obtain ⟨notes, hsent, hconfirmed⟩ := hconfirms.sent
    rw [notesAt_eq hx hy hsent] at htold
    obtain ⟨_, _, _, _, hout⟩ := hconfirmed _ htold t (some s) rfl
    exact hout

/-- A client tells in step `a` of a transaction with the block at `s`. It announces the transaction
afterwards only if it has fetched this block, and if the addition was then in its hands or has been
handed out later, nothing having brought the transaction before. If the addition was in its hands,
the transaction is announced when the handler has come to it, unless the client is told to end. -/
theorem confirmed_stays_confirmed_unless_overtaken (config : BackendConfig) (best : Stamp)
    (before after : List Action) {a : Action} {slot : Nat} {y : Client} {t : Transaction}
    {s : Stamp}
    (horder : Event.AddedFirst ((opened config best).trace dispatched (before ++ a :: after)))
    (hy : (((opened config best).run before).step a).hub.clients[slot]? = some y)
    (htold : .relevantTransaction t (some s) ∈ ((opened config best).run before).notesAt slot a) :
    let c := (opened config best).run before
    let next := c.step a
    let announced := ∃ n ∈ next.trace (notesAt slot) after, n.Announces t.txid
    (announced → (∃ block, (s.height, .ok block) ∈ c.answersAt slot a ∧ block.hash = s.hash ∧
        t ∈ block.transactions) ∧
      (Event.Adds t.txid y.hand ∨ Event.Adds t.txid (next.trace dispatched after) ∧
        ∀ e ∈ (opened config best).trace dispatched before, ¬ e.Brings t.txid)) ∧
    (Event.Adds t.txid y.hand → (∀ u, .receiveTransaction slot u ∉ after) → ∀ z,
      (next.run after).hub.clients[slot]? = some z → z.registered = true →
        ¬ Event.Adds t.txid z.hand → announced) := by
  intro c next announced
  obtain ⟨x, hx⟩ := exists_of_mem_notesAt htold
  obtain ⟨hnone, hjustified⟩ := justified_step hx hy htold
  have hhistory : x.hand.Sublist ((opened config best).trace dispatched before) := by
    have hopened : ∀ w, (opened config best).hub.clients[slot]? = some w → w.hand.Sublist [] :=
      fun _ hw => nomatch hw
    exact hand_run hopened hx
  rw [trace_append, trace_cons, hnone, List.nil_append] at horder
  have hfetched (hadds : Event.Adds t.txid (y.hand ++ next.trace dispatched after)) :
      ∃ block, (s.height, .ok block) ∈ c.answersAt slot a ∧ block.hash = s.hash ∧
        t ∈ block.transactions := hjustified.fetched hhistory horder hadds
  constructor
  · intro hannounced
    have hadds := adds_of_announced hy hannounced
    refine ⟨hfetched hadds, ?_⟩
    obtain ⟨u, hu, hadded⟩ := hadds
    rcases List.mem_append.1 hadded with hwaits | hlater
    · exact .inl ⟨u, hu, hwaits⟩
    · exact .inr ⟨⟨u, hu, hlater⟩, fun e he hbrings =>
        horder.not_adds he hbrings ⟨u, hu, hlater⟩⟩
  · intro hwaits hpast z hz hin hdone
    obtain ⟨u, hu, hadded⟩ := hwaits
    obtain ⟨block, hanswer, _⟩ := hfetched ⟨u, hu, List.mem_append_left _ hadded⟩
    have hawaits : y.Awaits t.txid :=
      ⟨not_mem_mirror_of_fetched hanswer hx hy htold, u, hu, hadded⟩
    have hyorderly : y.Orderly := by
      have horderly : ∀ w, c.hub.clients[slot]? = some w → w.Orderly :=
        orderly_run slot fun _ hw => nomatch hw
      exact orderly_step horderly hy
    have hend := awaits_run hy hyorderly hawaits hpast hz hin
    exact hend.resolve_left fun hstill => hdone hstill.added

/-- A block on top of `Block.blank` that has a payment to the script `[4]`. -/
def payingBlock : Block := ⟨⟨1, Block.blank.hash, .zero, 0, 0, 0⟩, [samplePaying]⟩

/-- A payment is handed out, and then its block. The handler has taken the payment. -/
def takenInTurn : List Action :=
  [.newClient, .watchScript 0 [4], .startClient 0, .push (.transactionAdded samplePaying),
    .push (.blockConnected ⟨1, payingBlock⟩), .handle 0]

/-- The payment leaves the mempool, and the subscriber asks for what is missing. -/
def afterTheBlock : List Action :=
  [.push (.transactionRemoved samplePaying.txid), .handle 0, .catchUp 0]

theorem payment_taken_in_turn_stays_confirmed :
    let c := (opened .standard ⟨0, Block.blank.hash⟩).run takenInTurn
    .relevantTransaction samplePaying (some ⟨1, payingBlock.hash⟩) ∈ c.notesAt 0 (.handle 0) ∧
      ∀ n ∈ (c.step (.handle 0)).trace (notesAt 0) afterTheBlock,
        ¬ n.Announces samplePaying.txid := by
  intro c
  have hevents : (opened .standard ⟨0, Block.blank.hash⟩).trace dispatched
      (takenInTurn ++ .handle 0 :: afterTheBlock) =
      [.transactionAdded samplePaying, .blockConnected ⟨1, payingBlock⟩,
        .transactionRemoved samplePaying.txid] := rfl
  have horder : Event.AddedFirst ((opened .standard ⟨0, Block.blank.hash⟩).trace dispatched
      (takenInTurn ++ .handle 0 :: afterTheBlock)) := by
    rw [hevents]
    simp [Event.AddedFirst]
  have htold : .relevantTransaction samplePaying (some ⟨1, payingBlock.hash⟩) ∈
      c.notesAt 0 (.handle 0) := by
    decide +kernel
  obtain ⟨y, hy⟩ : ∃ y, (c.step (.handle 0)).hub.clients[0]? = some y := ⟨_, rfl⟩
  obtain ⟨honly, _⟩ := confirmed_stays_confirmed_unless_overtaken .standard ⟨0, Block.blank.hash⟩
    takenInTurn afterTheBlock horder hy htold
  refine ⟨htold, fun n hn hannounces => ?_⟩
  obtain ⟨⟨block, hanswer, _⟩, _⟩ := honly ⟨n, hn, hannounces⟩
  cases hanswer

/-- A chain on which the payment is mined. -/
def minedPayment : Nat → List Block
  | 0 => [.blank]
  | _ + 1 => [.blank, payingBlock]

theorem grows_minedPayment : Grows minedPayment := by
  constructor
  · rintro (_ | k)
    · exact .singleton _
    · exact .cons_cons rfl (.singleton _)
  · rintro (_ | k)
    · exact ⟨[payingBlock], rfl⟩
    · exact List.prefix_rfl

def minedSource : Source := .ofList [.blank, payingBlock]

/-- The payment waits in the inbox while the poller finds its block and the subscriber asks for the
blocks. -/
def overtakenPayment : List Action :=
  [.newClient, .watchScript 0 [4], .push (.transactionAdded samplePaying), .start, .tickBlocks,
    .answerBlockPoller minedSource, .answerBlockPoller minedSource, .catchUp 0]

/-- On a chain that only grows, with the payment added once and before its block, the payment is
told of with the block and then as unconfirmed. -/
theorem confirmed_payment_is_announced_again : ¬ ∀ (chain : Nat → List Block)
    (config : BackendConfig) (source : Source) (c : Connection) (before after : List Action)
    (a : Action) (slot : Nat) (t : Transaction) (s : Stamp), Grows chain →
    source.From (chain 0) → (handshake config source).run = .ok c →
    (∀ (k : Nat) (b : Action), (before ++ a :: after)[k]? = some b → b.From (chain k)) →
    (∀ b, .push (.blockConnected b) ∉ before ++ a :: after) →
    (∀ n b, .receiveBlock n b ∉ before ++ a :: after) →
    (∀ n u, .receiveTransaction n u ∉ before ++ a :: after) →
    Event.AddedFirst (c.trace dispatched (before ++ a :: after)) →
    .relevantTransaction t (some s) ∈ (c.run before).notesAt slot a →
    .relevantTransaction t none ∉ ((c.run before).step a).trace (notesAt slot) after := by
  intro h
  let c := opened .standard ⟨0, Block.blank.hash⟩
  let after : List Action := [.startClient 0, .handle 0]
  have hfrom : minedSource.From [.blank, payingBlock] := Source.from_ofList (by decide)
  have hlater : ∀ a ∈ overtakenPayment.tail ++ .answerClient 0 minedSource :: after,
      a.From [.blank, payingBlock] := by
    simp only [overtakenPayment, after, List.tail_cons, List.cons_append, List.nil_append,
      List.forall_mem_cons]
    simp [Action.From, hfrom]
  have hanswers : ∀ (k : Nat) (b : Action),
      (overtakenPayment ++ .answerClient 0 minedSource :: after)[k]? = some b →
        b.From (minedPayment k) := by
    rintro (_ | k) b hb
    · cases hb
      trivial
    · exact hlater b (List.mem_of_getElem? hb)
  have hevents : c.trace dispatched (overtakenPayment ++ .answerClient 0 minedSource :: after) =
      [.transactionAdded samplePaying, .blockConnected ⟨1, payingBlock⟩] := by
    decide +kernel
  have horder : Event.AddedFirst
      (c.trace dispatched (overtakenPayment ++ .answerClient 0 minedSource :: after)) := by
    rw [hevents]
    simp [Event.AddedFirst]
  have hconfirmed : .relevantTransaction samplePaying (some ⟨1, payingBlock.hash⟩) ∈
      (c.run overtakenPayment).notesAt 0 (.answerClient 0 minedSource) := by
    decide +kernel
  have hagain : .relevantTransaction samplePaying none ∈
      ((c.run overtakenPayment).step (.answerClient 0 minedSource)).trace (notesAt 0) after := by
    decide +kernel
  have hsource : (Source.ofList [.blank]).From (minedPayment 0) := Source.from_ofList (by decide)
  refine h minedPayment .standard (.ofList [.blank]) c overtakenPayment after
    (.answerClient 0 minedSource) 0 samplePaying ⟨1, payingBlock.hash⟩ grows_minedPayment hsource
    rfl hanswers ?_ ?_ ?_ horder hconfirmed hagain
  · simp [overtakenPayment, after]
  · simp [overtakenPayment, after]
  · simp [overtakenPayment, after]

end Connection

end ChainFeed
