import ChainFeed.Proofs.Client.Learning
import Mathlib.Data.List.Induction

/-!
# What is relevant in a chain

Relevance is said without a scan: a transaction of a list is relevant if it pays a watched script,
spends a watched outpoint, or spends an output of an earlier transaction of the list that pays a
watched script. The scan learns outpoints as it goes, and only from transactions that match. It
finds the same ones, since a transaction that pays a watched script always matches.
-/

namespace ChainFeed

/-- Every output has a number of its own. -/
def Transaction.IsNumbered (t : Transaction) : Prop := t.outputs.length ≤ UInt32.size

instance (t : Transaction) : Decidable t.IsNumbered := inferInstanceAs (Decidable (_ ≤ _))

namespace WatchList

def IsPaid (w : WatchList) (t : Transaction) (o : OutPoint) : Prop :=
  t.txid = o.txid ∧ ∃ out ∈ t.outputs[o.vout.toNat]?, out.script ∈ w.scripts

instance (w : WatchList) (t : Transaction) (o : OutPoint) : Decidable (w.IsPaid t o) :=
  inferInstanceAs (Decidable (_ ∧ _))

/-- Whether `t` is relevant when the transactions before it are `earlier`. -/
def IsRelevant (w : WatchList) (earlier : List Transaction) (t : Transaction) : Prop :=
  (∃ out ∈ t.outputs, out.script ∈ w.scripts) ∨ (∃ i ∈ t.inputs, i.spends ∈ w.outpoints) ∨
    ∃ i ∈ t.inputs, ∃ p ∈ earlier, w.IsPaid p i.spends

instance (w : WatchList) (earlier : List Transaction) (t : Transaction) :
    Decidable (w.IsRelevant earlier t) :=
  inferInstanceAs (Decidable (_ ∨ _ ∨ _))

def relevantAmong (w : WatchList) (l : List Transaction) : List Transaction :=
  (l.zipIdx.filter fun (t, k) => w.IsRelevant (l.take k) t).map Prod.fst

theorem mem_paidBy_iff {w : WatchList} {t : Transaction} (ht : t.IsNumbered) {o : OutPoint} :
    o ∈ w.paidBy t ↔ w.IsPaid t o := by
  constructor
  · intro ho
    obtain ⟨⟨out, k⟩, hk, hpaid⟩ := List.mem_filterMap.1 ho
    have hget : t.outputs[k]? = some out := List.mem_zipIdx_iff_getElem?.1 hk
    have hlt : k < UInt32.size := Nat.lt_of_lt_of_le (List.getElem?_eq_some_iff.1 hget).1 ht
    have hnumber : k.toUInt32.toNat = k := UInt32.toNat_ofNat_of_lt hlt
    by_cases hs : out.script ∈ w.scripts
    · obtain rfl : ⟨t.txid, k.toUInt32⟩ = o := by simpa [hs] using hpaid
      exact ⟨rfl, out, by rw [hnumber, hget]; rfl, hs⟩
    · simp [hs] at hpaid
  · rintro ⟨htxid, out, hget, hs⟩
    have hmem := mem_paidBy hget hs
    rwa [htxid, Nat.toUInt32_eq, UInt32.ofNat_toNat] at hmem

theorem hits_iff {w : WatchList} {t : Transaction} : w.hits t = true ↔
    (∃ out ∈ t.outputs, out.script ∈ w.scripts) ∨ ∃ i ∈ t.inputs, i.spends ∈ w.outpoints := by
  simp only [hits, Bool.or_eq_true, List.any_eq_true, decide_eq_true_eq]
  exact or_comm

/-- A transaction that pays a watched script matches. -/
theorem hits_of_mem_paidBy {w : WatchList} {t : Transaction} {o : OutPoint}
    (ho : o ∈ w.paidBy t) : w.hits t = true := by
  obtain ⟨⟨out, k⟩, hk, hpaid⟩ := List.mem_filterMap.1 ho
  have hget : t.outputs[k]? = some out := List.mem_zipIdx_iff_getElem?.1 hk
  by_cases hs : out.script ∈ w.scripts
  · exact hits_iff.2 (.inl ⟨out, List.mem_of_getElem? hget, hs⟩)
  · simp [hs] at hpaid

theorem scan_append (w : WatchList) (l m : List Transaction) : w.scan (l ++ m) =
    (((w.scan l).1.scan m).1, (w.scan l).2 ++ ((w.scan l).1.scan m).2) := by
  induction l generalizing w with
  | nil => rfl
  | cons t rest ih =>
    by_cases h : w.hits t = true
    · rw [List.cons_append, scan_cons_of_hits h, scan_cons_of_hits h, ih]
      rfl
    · have hnot : w.hits t = false := by simpa using h
      rw [List.cons_append, scan_cons_of_not_hits hnot, scan_cons_of_not_hits hnot, ih]

theorem scan_sublist (w : WatchList) (l : List Transaction) : (w.scan l).2.Sublist l := by
  induction l generalizing w with
  | nil => exact .refl _
  | cons t rest ih =>
    by_cases h : w.hits t = true
    · rw [scan_cons_of_hits h]
      exact (ih _).cons_cons t
    · rw [scan_cons_of_not_hits (by simpa using h)]
      exact (ih w).cons t

/-- No payment to a watched script escapes the scan. -/
theorem mem_scan_of_mem_paidBy {w : WatchList} {l : List Transaction} {t : Transaction}
    {o : OutPoint} (ht : t ∈ l) (ho : o ∈ w.paidBy t) : t ∈ (w.scan l).2 := by
  obtain ⟨before, after, rfl⟩ := List.append_of_mem ht
  have hpaid : o ∈ (w.scan before).1.paidBy t :=
    (paidBy_congr (w.scripts_scan before) t).symm ▸ ho
  rw [scan_append, scan_cons_of_hits (hits_of_mem_paidBy hpaid)]
  exact List.mem_append_right _ List.mem_cons_self

/-- After a scan those outpoints are watched that were before and those of all payments, whether
the scan would have come upon them or not. -/
theorem mem_outpoints_scan_iff (w : WatchList) {l : List Transaction}
    (hl : ∀ t ∈ l, t.IsNumbered) (o : OutPoint) :
    o ∈ (w.scan l).1.outpoints ↔ o ∈ w.outpoints ∨ ∃ t ∈ l, w.IsPaid t o := by
  rw [mem_outpoints_scan]
  apply or_congr_right
  constructor
  · rintro ⟨t, ht, ho⟩
    have htl : t ∈ l := (w.scan_sublist l).subset ht
    exact ⟨t, htl, (mem_paidBy_iff (hl t htl)).1 ho⟩
  · rintro ⟨t, ht, ho⟩
    have hpaid : o ∈ w.paidBy t := (mem_paidBy_iff (hl t ht)).2 ho
    exact ⟨t, mem_scan_of_mem_paidBy ht hpaid, hpaid⟩

/-- What has been learned on the way makes exactly the relevant transactions match. -/
theorem hits_scan_iff (w : WatchList) {earlier : List Transaction}
    (hearlier : ∀ p ∈ earlier, p.IsNumbered) (t : Transaction) :
    (w.scan earlier).1.hits t = true ↔ w.IsRelevant earlier t := by
  rw [hits_iff, w.scripts_scan, IsRelevant]
  apply or_congr_right
  simp only [w.mem_outpoints_scan_iff hearlier, and_or_left, exists_or]

theorem relevantAmong_append_singleton (w : WatchList) (l : List Transaction) (t : Transaction) :
    w.relevantAmong (l ++ [t]) =
      w.relevantAmong l ++ if w.IsRelevant l t then [t] else [] := by
  have hbefore : l.zipIdx.filter (fun (s, k) => w.IsRelevant ((l ++ [t]).take k) s) =
      l.zipIdx.filter fun (s, k) => w.IsRelevant (l.take k) s := by
    apply List.filter_congr
    rintro ⟨s, k⟩ hs
    have hk : k < l.length := (List.getElem?_eq_some_iff.1 (List.mem_zipIdx_iff_getElem?.1 hs)).1
    simp only [List.take_append_of_le_length (Nat.le_of_lt hk)]
  rw [relevantAmong, List.zipIdx_append, List.filter_append, List.map_append, hbefore]
  congr 1
  by_cases ht : w.IsRelevant l t
  · simp [ht]
  · simp [ht]

/-- The scan finds the relevant transactions. -/
theorem scan_eq_relevantAmong (w : WatchList) {l : List Transaction}
    (hl : ∀ t ∈ l, t.IsNumbered) : (w.scan l).2 = w.relevantAmong l := by
  induction l using List.reverseRecOn with
  | nil => rfl
  | append_singleton earlier t ih =>
    have hearlier : ∀ p ∈ earlier, p.IsNumbered := fun p hp => hl p (List.mem_append_left _ hp)
    rw [scan_append, relevantAmong_append_singleton, ih hearlier]
    by_cases ht : w.IsRelevant earlier t
    · rw [scan_cons_of_hits ((w.hits_scan_iff hearlier t).2 ht), if_pos ht]
      rfl
    · have hnot : (w.scan earlier).1.hits t = false := by
        simpa using mt (w.hits_scan_iff hearlier t).1 ht
      rw [scan_cons_of_not_hits hnot, if_neg ht]
      rfl

/-- An empty watch-list stays empty and lets nothing through, so that it makes no difference that a
block is then not looked at. -/
theorem scan_of_isEmpty {w : WatchList} (hw : w.isEmpty = true) (l : List Transaction) :
    w.scan l = (w, []) := by
  simp only [isEmpty, Bool.and_eq_true, Distinct.isEmpty_iff] at hw
  induction l with
  | nil => rfl
  | cons t rest ih =>
    have hnot : w.hits t = false := by
      simp [hits, hw.1, hw.2]
    rw [scan_cons_of_not_hits hnot, ih]

theorem filterBlock_eq_scan (w : WatchList) (b : Block) :
    w.filterBlock b = w.scan b.transactions := by
  unfold filterBlock
  split
  · next hw => rw [scan_of_isEmpty hw]
  · rfl

end WatchList

namespace Client

/-- The client is handed the blocks in turn, and `relevant` is what it finds in them. Whatever else
happens to it in between leaves its best block and its watch-list alone. -/
inductive Receives : Client → List PlacedBlock → List Transaction → Client → Prop where
  | done (c : Client) : Receives c [] [] c
  | aside {c d e : Client} {blocks : List PlacedBlock} {relevant : List Transaction}
      (hbest : d.best = c.best) (hwatch : d.watch = c.watch)
      (h : Receives d blocks relevant e) : Receives c blocks relevant e
  | block {c d e : Client} {b : PlacedBlock} {blocks : List PlacedBlock}
      {found relevant : List Transaction} (hb : c.receiveBlock b = .ok (d, found))
      (h : Receives d blocks relevant e) : Receives c (b :: blocks) (found ++ relevant) e

variable {c d : Client} {b : PlacedBlock} {blocks : List PlacedBlock}
  {found relevant : List Transaction}

theorem receiveBlock_eq_ok (h : c.receiveBlock b = .ok (d, found)) :
    c.best.Precedes b.height ∧ d.best = b.stamp ∧
      c.watch.scan b.block.transactions = (d.watch, found) := by
  by_cases hp : c.best.Precedes b.height
  · rw [receiveBlock_of_precedes hp, Except.ok.injEq, Prod.mk.injEq] at h
    obtain ⟨rfl, rfl⟩ := h
    exact ⟨hp, rfl, (WatchList.filterBlock_eq_scan _ _).symm⟩
  · rw [receiveBlock_of_not_precedes hp] at h
    cases h

namespace Receives

/-- Blocks that are taken in one by one are scanned like one list. -/
theorem scan_eq (h : c.Receives blocks relevant d) :
    c.watch.scan (blocks.flatMap fun b => b.block.transactions) = (d.watch, relevant) := by
  induction h with
  | done c => rfl
  | aside _ hwatch _ ih => rwa [hwatch] at ih
  | block hb _ ih =>
    obtain ⟨_, _, hscan⟩ := receiveBlock_eq_ok hb
    rw [List.flatMap_cons, WatchList.scan_append, hscan, ih]

theorem heights (h : c.Receives blocks relevant d) : blocks.map (fun b => b.height.toNat) =
    List.range' (c.best.height.toNat + 1) blocks.length := by
  induction h with
  | done c => rfl
  | aside hbest _ _ ih => rwa [hbest] at ih
  | @block c d e b rest found relevant hb _ ih =>
    obtain ⟨hp, hbest, _⟩ := receiveBlock_eq_ok hb
    have hnext : b.height.toNat = c.best.height.toNat + 1 := hp
    rw [List.map_cons, List.length_cons, List.range'_succ, ih, hbest, ← hnext]
    rfl

/-- Blocks that lie on the best block one after the other are all taken in. -/
theorem exists_of_heights (h : blocks.map (fun b => b.height.toNat) =
    List.range' (c.best.height.toNat + 1) blocks.length) :
    ∃ relevant d, c.Receives blocks relevant d := by
  induction blocks generalizing c with
  | nil => exact ⟨[], c, .done c⟩
  | cons b rest ih =>
    rw [List.map_cons, List.length_cons, List.range'_succ, List.cons.injEq] at h
    obtain ⟨hnext, hrest⟩ := h
    have hb := receiveBlock_of_precedes (c := c) (b := b) hnext
    rw [← hnext] at hrest
    obtain ⟨relevant, d, hd⟩ := ih (c := { c with
      best := b.stamp
      watch := (c.watch.filterBlock b.block).1
      mirror := c.mirror.eraseAll b.block.txids }) hrest
    exact ⟨_, d, .block hb hd⟩

end Receives

/-- A client takes in exactly the blocks that lie on its best block one after the other. What it
finds in them are the relevant transactions of the chain in order, as seen from the watch-list at
the start. Afterwards it watches the same scripts, and besides the outpoints from the start those of
all outputs in the chain that pay one of the scripts. -/
theorem receives_what_is_relevant (c : Client) (blocks : List PlacedBlock)
    (hnumbered : ∀ b ∈ blocks, ∀ t ∈ b.block.transactions, t.IsNumbered) :
    let chain := blocks.flatMap fun b => b.block.transactions
    ((∃ relevant d, c.Receives blocks relevant d) ↔ blocks.map (fun b => b.height.toNat) =
      List.range' (c.best.height.toNat + 1) blocks.length) ∧
    ∀ relevant d, c.Receives blocks relevant d →
      relevant = c.watch.relevantAmong chain ∧ d.watch.scripts = c.watch.scripts ∧
        ∀ o, o ∈ d.watch.outpoints ↔
          o ∈ c.watch.outpoints ∨ ∃ t ∈ chain, c.watch.IsPaid t o := by
  intro chain
  have hchain : ∀ t ∈ chain, t.IsNumbered := by
    intro t ht
    obtain ⟨b, hb, htb⟩ := List.mem_flatMap.1 ht
    exact hnumbered b hb t htb
  refine ⟨⟨fun ⟨_, _, h⟩ => h.heights, Receives.exists_of_heights⟩, fun relevant d h => ?_⟩
  have hscan : c.watch.scan chain = (d.watch, relevant) := h.scan_eq
  have hscripts := c.watch.scripts_scan chain
  have houtpoints := c.watch.mem_outpoints_scan_iff hchain
  have hrelevant := c.watch.scan_eq_relevantAmong hchain
  rw [hscan] at hscripts houtpoints hrelevant
  exact ⟨hrelevant, hscripts, houtpoints⟩

def samplePaying : Transaction :=
  ⟨2, [⟨⟨.zero, 7⟩, [], 0xffffffff, []⟩], [⟨30000, [5]⟩, ⟨20000, [4]⟩], 0⟩

def sampleSpending (vout : UInt32) : Transaction :=
  ⟨2, [⟨⟨samplePaying.txid, vout⟩, [], 0xffffffff, []⟩], [⟨19000, [6]⟩], 0⟩

/-- A spend that comes before its payment, the payment, and spends of both its outputs. -/
def spendChain : List PlacedBlock :=
  [⟨6, ⟨⟨1, .zero, .zero, 0, 0, 0⟩, [sampleSpending 1, samplePaying, sampleSpending 0]⟩⟩,
    ⟨7, ⟨⟨1, .zero, .zero, 0, 0, 0⟩, [sampleSpending 1]⟩⟩]

/-- A client at height 5 that watches the script `[4]`. -/
def payee : Client := (Client.new ⟨1⟩ .regtest true 16 ⟨5, .zero⟩).watchScript [4]

theorem payee_finds_payment_and_later_spend : ∃ d, payee.Receives spendChain
    [samplePaying, sampleSpending 1] d ∧ ⟨samplePaying.txid, 1⟩ ∈ d.watch.outpoints := by
  have hnumbered : ∀ b ∈ spendChain, ∀ t ∈ b.block.transactions, t.IsNumbered := by
    decide +kernel
  obtain ⟨hiff, hall⟩ := receives_what_is_relevant payee spendChain hnumbered
  obtain ⟨relevant, d, hd⟩ := hiff.2 (by decide)
  obtain ⟨hrelevant, _, houtpoints⟩ := hall relevant d hd
  have hfound : payee.watch.relevantAmong (spendChain.flatMap fun b => b.block.transactions) =
      [samplePaying, sampleSpending 1] := by
    decide +kernel
  rw [hfound] at hrelevant
  subst hrelevant
  exact ⟨d, hd, (houtpoints _).2 (.inr (by decide +kernel))⟩

end Client

end ChainFeed
