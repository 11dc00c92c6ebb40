import ChainFeed.Proofs.Client.BlockMove
import ChainFeed.Proofs.Run.BlockStep

/-!
# Deliveries of blocks

A block that is handed out is offered to every client. A client in the fan-out accepts it, or misses
it when its inbox is full. `Connection.BlockTurn` tells what a step does with the blocks of one
client: it offers one to it, or lets it go on without one.
-/

namespace ChainFeed

open Client

/-- A client that a fan-out reaches takes the event, or misses it and stays as it is. -/
theorem Client.takes_or_misses {wants : Client → Bool} {x : Client} (e : Event)
    (ha : x.isAddressed wants = true) (hs : x.isStopped = false) :
    (x.takes wants e = true ∧ x.misses wants e = false ∧
      x.offer wants e = { x with inbox := x.inbox ++ [e] }) ∨
    (x.takes wants e = false ∧ x.misses wants e = true ∧ x.offer wants e = x) := by
  by_cases hroom : x.inbox.length < x.capacity
  · refine .inl ?_
    simp [takes, misses, offer, ha, reception, deliver, hs, hroom]
  · refine .inr ?_
    simp [takes, misses, offer, ha, reception, deliver, hs, hroom]

/-- A client that was made at the watermark `base` has told of the blocks above it in order, and
has not been stopped unless it is out of the fan-out. -/
structure Client.InOrder (base : Stamp) (x : Client) : Prop where
  steady : x.Steady base
  orderly : x.Orderly

namespace Client.InOrder

variable {base : Stamp} {x y : Client}

theorem new (id : ClientId) (network : Network) (auto : Bool) (size : Nat) (base : Stamp) :
    InOrder base { Client.new id network auto size base with registered := true } :=
  ⟨.new _ _ _ _ true, fun _ => ⟨rfl, rfl⟩⟩

theorem congr (h : InOrder base x) (hplace : SamePlace x y) (hview : y.blocks = x.blocks) :
    InOrder base y := by
  refine ⟨?_, h.orderly.congr hplace⟩
  exact h.steady.congr (congrArg BlockView.stream hview) (congrArg BlockView.best hview)
    (congrArg BlockView.catchUp hview)

theorem move {given : Input} (hm : Move given x y) (h : InOrder base x) : InOrder base y :=
  ⟨h.steady.move hm, h.orderly.move hm⟩

theorem offer (h : InOrder base x) (wants : Client → Bool) (e : Event) :
    InOrder base (x.offer wants e) := by
  have hm : Moves ⟨fun _ => True, fun _ => True, fun _ _ => True⟩ x (x.offer wants e) :=
    x.moves_offer wants trivial
  exact hm.keep (P := InOrder base) (fun hm h => h.move hm) h

end Client.InOrder

namespace Connection

/-- The blocks that a step puts into the inbox of the client at `slot`. -/
def acceptedAt (slot : Nat) (c : Connection) (a : Action) : List PlacedBlock :=
  (c.blocksAt a).filter fun b =>
    c.hub.clients[slot]?.any fun x => x.takes (fun _ => true) (.blockConnected b)

/-- The blocks that the client at `slot` misses in a step because its inbox is full. -/
def missedAt (slot : Nat) (c : Connection) (a : Action) : List PlacedBlock :=
  (c.blocksAt a).filter fun b =>
    c.hub.clients[slot]?.any fun x => x.misses (fun _ => true) (.blockConnected b)

/-- What a step does with the blocks of the client at `slot`. -/
inductive BlockTurn (slot : Nat) (c : Connection) (x : Client) (a : Action) (y : Client) :
    Prop where
  | offered (b : PlacedBlock) (hblocks : c.blocksAt a = [b])
      (hy : y = x.offer (fun _ => true) (.blockConnected b))
  | moves (hblocks : c.blocksAt a = []) (hm : Moves (c.inputs slot a) x y)
  | aside (hblocks : c.blocksAt a = []) (hplace : SamePlace x y) (hview : y.blocks = x.blocks)

section
variable {slot : Nat} {c : Connection} {a : Action} {x y : Client}

theorem blockTurn_of_getElem? (hpast : ∀ b, a ≠ .receiveBlock slot b)
    (hx : c.hub.clients[slot]? = some x) (hy : (c.step a).hub.clients[slot]? = some y) :
    c.BlockTurn slot x a y := by
  obtain ⟨hblocks, _⟩ | ⟨b, hblocks, _⟩ := c.watermark_step a
  · cases clientStep_of_getElem? hx hy with
    | moves _ hm => exact .moves hblocks hm
    | watchScript s => exact .aside hblocks ⟨rfl, rfl, rfl, fun h => h⟩ rfl
    | watchOutpoints l => exact .aside hblocks ⟨rfl, rfl, rfl, fun h => h⟩ rfl
    | receiveTransaction t =>
      exact .aside hblocks (.receiveTransaction x t) (x.blocks_receiveTransaction t)
    | receiveBlock b => exact absurd rfl (hpast b)
  · refine .offered b hblocks ?_
    rw [c.clients_of_mem_blocksAt (b := b) (by simp [hblocks]), List.getElem?_map, hx] at hy
    exact (Option.some.inj hy).symm

/-- A client in the fan-out accepts the block of a step or misses it. -/
theorem accepted_or_missed {b : PlacedBlock} (hx : c.hub.clients[slot]? = some x)
    (horderly : x.Orderly) (hin : x.registered = true) (hblocks : c.blocksAt a = [b]) :
    (c.acceptedAt slot a = [b] ∧ c.missedAt slot a = [] ∧
      (x.offer (fun _ => true) (.blockConnected b)).blocks =
        { x.blocks with waiting := x.waiting ++ [b] }) ∨
    (c.acceptedAt slot a = [] ∧ c.missedAt slot a = [b] ∧
      (x.offer (fun _ => true) (.blockConnected b)).blocks = x.blocks) := by
  have ha : x.isAddressed (fun _ => true) = true := by simp [isAddressed, hin]
  obtain ⟨ht, hm, ho⟩ | ⟨ht, hm, ho⟩ :=
    x.takes_or_misses (.blockConnected b) ha (horderly hin).1
  · have hwaiting : ({ x with inbox := x.inbox ++ [.blockConnected b] } : Client).waiting =
        x.waiting ++ [b] := x.waiting_deliver (.blockConnected b)
    refine .inl ⟨by simp [acceptedAt, hblocks, hx, ht], by simp [missedAt, hblocks, hx, hm], ?_⟩
    rw [ho, Client.blocks, hwaiting]
    rfl
  · exact .inr ⟨by simp [acceptedAt, hblocks, hx, ht], by simp [missedAt, hblocks, hx, hm],
      by rw [ho]⟩

theorem acceptedAt_of_nil (hblocks : c.blocksAt a = []) : c.acceptedAt slot a = [] := by
  rw [acceptedAt, hblocks, List.filter_nil]

theorem missedAt_of_nil (hblocks : c.blocksAt a = []) : c.missedAt slot a = [] := by
  rw [missedAt, hblocks, List.filter_nil]

end

end Connection

end ChainFeed
