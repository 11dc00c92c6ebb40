import ChainFeed.Proofs.Client.BlockMove

/-!
# Clients that stay within bounds

A client comes by blocks in two ways, from the fan-out and by fetching them. If both bring only
blocks of some kind, then it never holds, applies or tells of any other, whatever it goes through.
The kind may be that of the blocks of a chain, or of those up to some height.
-/

namespace ChainFeed

/-- Bounds for what a client has to do with: the blocks in its hands, the blocks that it tells of or
stands at, and the heights that it fetches up to. -/
structure Bounds where
  block : PlacedBlock → Prop
  stamp : Stamp → Prop
  target : Height → Prop
  stamp_of_block : ∀ b, block b → stamp b.stamp
  target_of_block : ∀ b, block b → 0 < b.height.toNat → target (b.height - 1)

def Bounds.upTo (top : Height) : Bounds where
  block b := b.height.toNat ≤ top.toNat
  stamp s := s.height.toNat ≤ top.toNat
  target t := t.toNat ≤ top.toNat
  stamp_of_block _ hb := hb
  target_of_block b hb hpos := by
    rw [Height.toNat_sub_one hpos]
    omega

/-- What comes to a client is within the bounds, if the client asks for no more than is. -/
structure Bounds.Admits (B : Bounds) (given : Client.Input) : Prop where
  event : ∀ b, given.event (.blockConnected b) → B.block b
  target : ∀ h, given.target h → B.target h
  answer : ∀ h t block, B.target t → h.toNat ≤ t.toNat → given.answer h (.ok block) →
    B.block ⟨h, block⟩

structure BlockView.Within (B : Bounds) (v : BlockView) : Prop where
  waiting : ∀ b ∈ v.waiting, B.block b
  target : ∀ u, v.catchUp = some u → B.target u.target
  best : B.stamp v.best
  stream : ∀ s ∈ v.stream, B.stamp s

namespace BlockView.Within

variable {B B' : Bounds} {v : BlockView}

theorem mono (h : v.Within B) (hblock : ∀ b, B.block b → B'.block b)
    (hstamp : ∀ s, B.stamp s → B'.stamp s) (htarget : ∀ t, B.target t → B'.target t) :
    v.Within B' :=
  ⟨fun b hb => hblock b (h.waiting b hb), fun u hu => htarget _ (h.target u hu),
    hstamp _ h.best, fun s hs => hstamp s (h.stream s hs)⟩

/-- A block that is told of is within the bounds like those before. -/
theorem told (h : v.Within B) {s : Stamp} (hs : B.stamp s) : ∀ t ∈ v.stream ++ [s], B.stamp t := by
  intro t ht
  obtain ht | ht := List.mem_append.1 ht
  · exact h.stream t ht
  · rwa [List.mem_singleton.1 ht]

end BlockView.Within

namespace Client

variable {B : Bounds}

theorem within_new (id : ClientId) (network : Network) (auto : Bool) (size : Nat) (b : Bool)
    {base : Stamp} (hbase : B.stamp base) :
    { Client.new id network auto size base with registered := b }.blocks.Within B := by
  refine ⟨?_, by rintro _ ⟨⟩, hbase, ?_⟩
  · intro b hb
    cases hb
  · intro s hs
    cases hs

theorem BlockMove.within {given : Input} {c d : Client} (hB : B.Admits given)
    (hm : BlockMove given c d) (h : c.blocks.Within B) : d.blocks.Within B := by
  have hrest {l rest : List PlacedBlock} (hl : c.waiting = l ++ rest) : ∀ b ∈ rest, B.block b :=
    fun b hb => h.waiting b (by change b ∈ c.waiting; rw [hl]; exact List.mem_append_right l hb)
  have hfirst {b : PlacedBlock} {rest : List PlacedBlock} (hb : c.waiting = b :: rest) :
      B.block b :=
    h.waiting b (by change b ∈ c.waiting; rw [hb]; exact List.mem_cons_self)
  have hcaught {u : CatchUp} {block : Block} (hu : c.catchUp = some u) (hfits : u.Fits c.best)
      (hgiven : given.answer u.next (.ok block)) : B.block ⟨u.next, block⟩ :=
    hB.answer _ _ _ (h.target u hu) hfits.next_le_target hgiven
  cases hm with
  | same hd => rwa [hd]
  | lost rest hsub _ hd =>
    rw [hd]
    exact ⟨fun b hb => h.waiting b (hsub b hb), h.target, h.best, h.stream⟩
  | delivered b hgiven hd =>
    rw [hd]
    refine ⟨?_, h.target, h.best, h.stream⟩
    intro b' hb'
    obtain hb' | hb' := List.mem_append.1 hb'
    · exact h.waiting b' hb'
    · rw [List.mem_singleton.1 hb']
      exact hB.event b hgiven
  | applied b rest hidle hb _ hd =>
    rw [hd]
    have hstamp := B.stamp_of_block b (hfirst hb)
    exact ⟨hrest (l := [b]) hb, h.target, hstamp, h.told hstamp⟩
  | passed b rest hb _ hd =>
    rw [hd]
    exact ⟨hrest (l := [b]) hb, h.target, h.best, h.stream⟩
  | gapLeft b rest hb _ _ hd =>
    rw [hd]
    exact ⟨hrest (l := [b]) hb, h.target, h.best, h.stream⟩
  | gapFetched b rest _ hb hgap hd =>
    rw [hd]
    refine ⟨h.waiting, ?_, h.best, h.stream⟩
    rintro _ ⟨⟩
    exact B.target_of_block b (hfirst hb) (by omega)
  | setOut target hgiven _ _ hd =>
    rw [hd]
    refine ⟨h.waiting, ?_, h.best, h.stream⟩
    rintro _ ⟨⟩
    exact hB.target _ hgiven
  | broken u e rest _ _ hwaiting hd =>
    rw [hd]
    exact ⟨hrest hwaiting, by rintro _ ⟨⟩, h.best, h.stream⟩
  | fetched u block hu hfits hgiven _ hd =>
    rw [hd]
    have hstamp := B.stamp_of_block _ (hcaught hu hfits hgiven)
    refine ⟨h.waiting, ?_, hstamp, h.told hstamp⟩
    rintro _ ⟨⟩
    exact h.target u hu
  | closed u block rest hu hfits hgiven _ hwaiting hd =>
    rw [hd]
    have hstamp := B.stamp_of_block _ (hcaught hu hfits hgiven)
    exact ⟨hrest hwaiting, by rintro _ ⟨⟩, hstamp, h.told hstamp⟩
  | filled u block b rest hu hgiven hb hfits _ hd =>
    rw [hd]
    have hstamp := B.stamp_of_block _ (hcaught hu hfits hgiven)
    have hlast := B.stamp_of_block b (hfirst hb)
    refine ⟨hrest (l := [b]) hb, by rintro _ ⟨⟩, hlast, ?_⟩
    intro s hs
    rw [List.append_cons] at hs
    obtain hs | hs := List.mem_append.1 hs
    · exact h.told hstamp s hs
    · rwa [List.mem_singleton.1 hs]

end Client

end ChainFeed
