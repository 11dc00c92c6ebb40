import ChainFeed.Proofs.Run.Within

/-!
# Agreement with a growing chain

The program compares heights only, and blocks come to it from the handshake, from the poller and
from the catch-ups of the clients. If all of them are answered from a chain that only grows, then the
watermark and every best block are blocks of it, and what a client tells of goes from parent to
child.
-/

namespace ChainFeed

/-- Every block above the first names the one below it as its parent. -/
def Linked (chain : List Block) : Prop := chain.IsChain fun below above => above.parent = below.hash

/-- The stamp is that of the block that the chain, lowest block first, has at its height. -/
def Stamp.IsOn (chain : List Block) (s : Stamp) : Prop :=
  ∃ b, chain[s.height.toNat]? = some b ∧ b.hash = s.hash

/-- The block at `t` is on the chain and names the one at `s` as its parent. -/
def Stamp.IsParent (chain : List Block) (s t : Stamp) : Prop :=
  ∃ b, chain[t.height.toNat]? = some b ∧ b.hash = t.hash ∧ b.parent = s.hash

/-- The chain of a node as time goes on: blocks come on top, and none is replaced. -/
structure Grows (chain : Nat → List Block) : Prop where
  linked : ∀ k, Linked (chain k)
  longer : ∀ k, chain k <+: chain (k + 1)

/-- Whatever the node answers about blocks is on the chain. It may fail to answer. -/
structure Source.From (chain : List Block) (source : Source) : Prop where
  best : ∀ s, source.best = .ok s → s.IsOn chain
  block : ∀ h b, source.block h = .ok b → chain[h.toNat]? = some b

def Action.From (chain : List Block) : Action → Prop
  | .answerClient _ source | .answerBlockPoller source | .answerTxPoller source => source.From chain
  | _ => True

theorem Linked.parent {chain : List Block} (h : Linked chain) {k : Nat} {a b : Block}
    (ha : chain[k]? = some a) (hb : chain[k + 1]? = some b) : b.parent = a.hash := by
  obtain ⟨_, rfl⟩ := List.getElem?_eq_some_iff.1 ha
  obtain ⟨hlt, rfl⟩ := List.getElem?_eq_some_iff.1 hb
  exact List.isChain_iff_getElem.1 h k hlt

theorem getElem?_of_extends {chain longer : List Block} (h : chain <+: longer) {k : Nat} {b : Block}
    (hb : chain[k]? = some b) : longer[k]? = some b := by
  obtain ⟨more, rfl⟩ := h
  rw [List.getElem?_append_left (List.getElem?_eq_some_iff.1 hb).1, hb]

/-- The blocks of a chain, each at its own height. -/
def Bounds.ofChain (chain : List Block) : Bounds where
  block b := chain[b.height.toNat]? = some b.block
  stamp := Stamp.IsOn chain
  target _ := True
  stamp_of_block b hb := ⟨b.block, hb, rfl⟩
  target_of_block _ _ _ := trivial

/-- Blocks of one chain at consecutive heights are parent and child. -/
theorem isChain_isParent {chain : List Block} (hlinked : Linked chain) {stream : List Stamp}
    {n : Nat} (hheights : stream.map (fun s => s.height.toNat) = List.range' n stream.length)
    (hon : ∀ s ∈ stream, s.IsOn chain) : stream.IsChain (Stamp.IsParent chain) := by
  rw [List.isChain_iff_getElem]
  intro k hk
  have hheight (i : Nat) (hi : i < stream.length) : stream[i].height.toNat = n + i := by
    have h := congrArg (·[i]?) hheights
    simpa [hi] using h
  obtain ⟨a, ha, hahash⟩ := hon stream[k] (List.getElem_mem _)
  obtain ⟨b, hb, hbhash⟩ := hon stream[k + 1] (List.getElem_mem _)
  refine ⟨b, hb, hbhash, ?_⟩
  rw [hheight] at ha hb
  rw [← hahash]
  exact hlinked.parent ha hb

namespace Connection

theorem opened_of_handshake {config : BackendConfig} {source : Source} {c : Connection}
    (h : (handshake config source).run = .ok c) :
    ∃ best, source.best = .ok best ∧ c = opened config best := by
  unfold handshake at h
  split at h
  · cases h
  · simp only [bind, pure] at h
    split at h
    · cases h
    · split at h
      · cases h
      · split at h
        · cases h
        · next best hbest =>
          cases h
          exact ⟨best, hbest, rfl⟩

/-- A block that is handed out, or that a client fetches, is one of the chain. -/
theorem within_step_ofChain {chain : List Block} {c : Connection} {a : Action}
    (h : c.Within (.ofChain chain)) (hfrom : a.From chain)
    (hpush : ∀ b, a ≠ .push (.blockConnected b)) (hpast : ∀ slot b, a ≠ .receiveBlock slot b) :
    (c.step a).Within (.ofChain chain) := by
  refine h.step ?_ ?_ hpast (fun _ _ => trivial)
  · intro b hb
    obtain ha | ⟨source, rfl, hblock⟩ := c.source_of_mem_blocksAt hb
    · exact absurd ha (hpush b)
    · exact hfrom.block b.height b.block hblock
  · rintro slot source rfl height t block _ _ hblock
    exact hfrom.block height block hblock

theorem within_run_ofChain {chain : Nat → List Block} (hgrows : Grows chain) {c : Connection}
    {actions : List Action} (h : c.Within (.ofChain (chain 0)))
    (hfrom : ∀ (k : Nat) (a : Action), actions[k]? = some a → a.From (chain k))
    (hpush : ∀ b, .push (.blockConnected b) ∉ actions)
    (hpast : ∀ slot b, .receiveBlock slot b ∉ actions) :
    (c.run actions).Within (.ofChain (chain actions.length)) := by
  induction actions generalizing c chain with
  | nil => exact h
  | cons a rest ih =>
    have hstep : (c.step a).Within (.ofChain (chain 0)) := within_step_ofChain h (hfrom 0 a rfl)
      (fun b ha => hpush b (ha ▸ List.mem_cons_self))
      (fun slot b ha => hpast slot b (ha ▸ List.mem_cons_self))
    have hlater : (c.step a).Within (.ofChain (chain 1)) := hstep.mono
      (fun b hb => getElem?_of_extends (hgrows.longer 0) hb)
      (fun s ⟨b, hb, hhash⟩ => ⟨b, getElem?_of_extends (hgrows.longer 0) hb, hhash⟩)
      (fun _ _ => trivial)
    have hgrows' : Grows fun k => chain (k + 1) :=
      ⟨fun k => hgrows.linked (k + 1), fun k => hgrows.longer (k + 1)⟩
    exact ih hgrows' hlater (fun k b hb => hfrom (k + 1) b hb)
      (fun b hb => hpush b (List.mem_cons_of_mem _ hb))
      (fun slot b hb => hpast slot b (List.mem_cons_of_mem _ hb))

/-- A connection is opened with a node, and every answer is taken from the chain that the node has
at that moment. Then at the end of any run that is handed no block from elsewhere, the watermark and
the best block of every client are on the chain, and a client has told of each block right after the
parent of the block. -/
theorem everyone_stays_on_the_chain {chain : Nat → List Block} (hgrows : Grows chain)
    {config : BackendConfig} {source : Source} (hsource : source.From (chain 0)) {c : Connection}
    (hopened : (handshake config source).run = .ok c) {actions : List Action}
    (hfrom : ∀ (k : Nat) (a : Action), actions[k]? = some a → a.From (chain k))
    (hpush : ∀ b, .push (.blockConnected b) ∉ actions)
    (hpast : ∀ slot b, .receiveBlock slot b ∉ actions) :
    let now := c.run actions
    let grown := chain actions.length
    now.hub.watermark.IsOn grown ∧
      ∀ x ∈ now.hub.clients, x.best.IsOn grown ∧ x.stream.IsChain (Stamp.IsParent grown) := by
  intro now grown
  obtain ⟨best, hbest, rfl⟩ := opened_of_handshake hopened
  have h : now.Within (.ofChain grown) :=
    within_run_ofChain hgrows (.opened config (hsource.best best hbest) trivial) hfrom hpush hpast
  refine ⟨h.watermark, fun x hx => ?_⟩
  obtain ⟨slot, hslot⟩ := List.mem_iff_getElem?.1 hx
  obtain ⟨⟨base, hsteady⟩, hin⟩ := h.clients slot x hslot
  exact ⟨hin.best, isChain_isParent (hgrows.linked _) hsteady.gapless.heights hin.stream⟩

end Connection

namespace Source

/-- A node whose blocks are those of a list, with an empty mempool. -/
def ofList (chain : List Block) : Source where
  network := .ok .regtest
  best :=
    match chain.getLast? with
    | some b => .ok ⟨(chain.length - 1).toUInt32, b.hash⟩
    | none => .error (.queryFailed "getblockchaininfo" "timeout")
  block h :=
    match chain[h.toNat]? with
    | some b => .ok b
    | none => .error (.queryFailed "getblockhash" "Block height out of range")
  mempool := .ok []
  transaction _ := .error (.queryFailed "getrawtransaction" "No such mempool transaction")

theorem from_ofList {chain : List Block} (h : chain.length ≤ UInt32.size) :
    (ofList chain).From chain := by
  constructor
  · intro s hs
    simp only [ofList] at hs
    split at hs
    · next b hb =>
      cases hs
      have hlt : chain.length - 1 < UInt32.size := by
        have : 0 < UInt32.size := by decide
        omega
      refine ⟨b, ?_, rfl⟩
      rw [← hb, List.getLast?_eq_getElem?]
      congr 1
      exact Nat.mod_eq_of_lt hlt
    · cases hs
  · intro height b hb
    simp only [ofList] at hb
    split at hb
    · next hget =>
      cases hb
      exact hget
    · cases hb

end Source

def Block.childOf (b : Block) : Block := ⟨⟨1, b.hash, .zero, 0, 0, 0⟩, []⟩

def minedTwice : List Block := [.blank, .childOf .blank, .childOf (.childOf .blank)]

/-- A chain on which two blocks come at once. -/
def mined : Nat → List Block
  | 0 => [.blank]
  | _ + 1 => minedTwice

theorem grows_mined : Grows mined := by
  constructor
  · rintro (_ | k)
    · exact .singleton _
    · exact .cons_cons rfl (.cons_cons rfl (.singleton _))
  · rintro (_ | k)
    · exact ⟨minedTwice.tail, rfl⟩
    · exact List.prefix_rfl

namespace Connection

/-- A client that is handed the first new block, loses its place in the fan-out and fetches the
second. -/
def followed : List Action :=
  [.newClient, .start, .startClient 0, .tickBlocks, .answerBlockPoller (.ofList minedTwice),
    .answerBlockPoller (.ofList minedTwice), .handle 0, .removeClient ⟨1⟩,
    .answerBlockPoller (.ofList minedTwice), .catchUp 0, .answerClient 0 (.ofList minedTwice)]

theorem fetched_block_is_child_of_delivered_block : ∃ x : Client,
    ((opened .standard ⟨0, Block.blank.hash⟩).run followed).hub.clients[0]? = some x ∧
      x.stream.length = 2 ∧ x.stream.IsChain (Stamp.IsParent minedTwice) := by
  have hfrom : (Source.ofList minedTwice).From minedTwice := Source.from_ofList (by decide)
  have hlater : ∀ a ∈ followed.tail, a.From minedTwice := by
    simp only [followed, List.tail_cons, List.forall_mem_cons]
    simp [Action.From, hfrom]
  have hanswers : ∀ (k : Nat) (a : Action), followed[k]? = some a → a.From (mined k) := by
    rintro (_ | k) a ha
    · cases ha
      trivial
    · exact hlater a (List.mem_of_getElem? ha)
  have hopened : (handshake .standard (Source.ofList [.blank])).run =
      .ok (opened .standard ⟨0, Block.blank.hash⟩) := rfl
  obtain ⟨_, hclients⟩ := everyone_stays_on_the_chain grows_mined (Source.from_ofList (by decide))
    hopened hanswers (by simp [followed]) (by simp [followed])
  have hlength : ((opened .standard ⟨0, Block.blank.hash⟩).run followed).hub.clients[0]?.map
      (fun x => x.stream.length) = some 2 := rfl
  obtain ⟨x, hx, hlength⟩ := Option.map_eq_some_iff.1 hlength
  exact ⟨x, hx, hlength, (hclients x (List.mem_of_getElem? hx)).2⟩

end Connection

end ChainFeed
