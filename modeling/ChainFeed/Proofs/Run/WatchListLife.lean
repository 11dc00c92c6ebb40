import ChainFeed.Proofs.Run.Operations

/-!
# The watch-list over the life of a client

Outpoints come to be watched in two ways besides the subscriber's: a block that is applied is
scanned, and a transaction that is new to the mirror is followed. Both add the outputs that pay a
watched script, so that for each entry the operation can be named that brought it.
-/

namespace ChainFeed

structure WatchList.Within (v w : WatchList) : Prop where
  scripts : ∀ s ∈ v.scripts, s ∈ w.scripts
  outpoints : ∀ o ∈ v.outpoints, o ∈ w.outpoints

namespace Client

variable {x : Client} {ops : List Operation}

theorem within_performAll (x : Client) (ops : List Operation) :
    x.watch.Within (x.performAll ops).watch :=
  ⟨fun _ hs => mem_scripts_performAll.2 (.inl hs), fun _ ho => mem_outpoints_performAll.2 (.inl ho)⟩

theorem mem_learns {op : Operation} {o : OutPoint} : o ∈ x.learns op ↔
    ∃ (t : Transaction) (k : Nat) (out : TxOut), t ∈ x.takesIn op ∧ t.outputs[k]? = some out ∧
      out.script ∈ x.watch.scripts ∧ o = ⟨t.txid, k.toUInt32⟩ := by
  rw [learns, List.mem_flatMap]
  constructor
  · rintro ⟨t, ht, ho⟩
    obtain ⟨k, out, hk, hs, rfl⟩ := WatchList.mem_paidBy_iff_exists.1 ho
    exact ⟨t, k, out, ht, hk, hs, rfl⟩
  · rintro ⟨t, k, out, ht, hk, hs, rfl⟩
    exact ⟨t, ht, WatchList.mem_paidBy hk hs⟩

/-- Where an outpoint that is watched has come from. -/
theorem mem_outpoints_performAll_iff {o : OutPoint} : o ∈ (x.performAll ops).watch.outpoints ↔
    o ∈ x.watch.outpoints ∨ (∃ l, .watchOutpoints l ∈ ops ∧ o ∈ l) ∨
      ∃ (before : List Operation) (op : Operation) (after : List Operation) (t : Transaction)
        (k : Nat) (out : TxOut), ops = before ++ op :: after ∧
        t ∈ (x.performAll before).takesIn op ∧ t.outputs[k]? = some out ∧
        out.script ∈ (x.performAll before).watch.scripts ∧ o = ⟨t.txid, k.toUInt32⟩ := by
  rw [mem_outpoints_performAll, mem_collect]
  simp only [mem_learns, exists_and_left]

end Client

namespace Connection

open Client

/-- The watch-list of a client never loses an entry. A script is on it because the subscriber has
added it. An outpoint is on it because the subscriber has added it, or as an output of a transaction
that the client has taken in, in a block that was applied or as new to the mirror, and that output
paid a script that was watched then; and each such output is watched as soon as the transaction has
been taken in. A block that is rejected and a transaction that is in the mirror change nothing. This
is so for every sequence of operations, and every run makes of a client what some such sequence,
given by its steps, makes of one that watches nothing. -/
theorem watch_list_is_sound_and_complete :
    (∀ (x : Client) (ops : List Operation),
      let y := x.performAll ops
      (∀ before after, ops = before ++ after → (x.performAll before).watch.Within y.watch) ∧
      (∀ s, s ∈ y.watch.scripts ↔ s ∈ x.watch.scripts ∨ .watchScript s ∈ ops) ∧
      (∀ o, o ∈ y.watch.outpoints ↔
        o ∈ x.watch.outpoints ∨ (∃ l, .watchOutpoints l ∈ ops ∧ o ∈ l) ∨
          ∃ (before : List Operation) (op : Operation) (after : List Operation) (t : Transaction)
            (k : Nat) (out : TxOut), ops = before ++ op :: after ∧
            t ∈ (x.performAll before).takesIn op ∧ t.outputs[k]? = some out ∧
            out.script ∈ (x.performAll before).watch.scripts ∧ o = ⟨t.txid, k.toUInt32⟩) ∧
      (∀ op, ∀ t ∈ y.takesIn op, ∀ (k : Nat) (out : TxOut), t.outputs[k]? = some out →
        out.script ∈ y.watch.scripts →
        ⟨t.txid, k.toUInt32⟩ ∈ (y.perform op).watch.outpoints) ∧
      (∀ b : PlacedBlock, ¬ y.best.Precedes b.height → y.perform (.block b) = y) ∧
      ∀ t : Transaction, t.txid ∈ y.mirror →
        y.perform (.addition t) = y ∧ y.perform (.handed t) = y) ∧
    ∀ (config : BackendConfig) (best : Stamp) (actions : List Action) (slot : Nat) (z : Client),
      ((opened config best).run actions).hub.clients[slot]? = some z →
      ∃ fresh : Client, fresh.watch = .empty ∧ fresh.mirror = .empty ∧ z.account =
        (fresh.performAll ((opened config best).trace (operationsAt slot) actions)).account := by
  constructor
  · intro x ops y
    refine ⟨?_, fun s => mem_scripts_performAll, fun o => mem_outpoints_performAll_iff, ?_, ?_, ?_⟩
    · rintro before after hops
      have hy : y = (x.performAll before).performAll after := by
        rw [← performAll_append, ← hops]
      rw [hy]
      exact within_performAll _ after
    · intro op t ht k out hk hs
      exact mem_outpoints_perform.2 (.inr (.inr (mem_learns.2 ⟨t, k, out, ht, hk, hs, rfl⟩)))
    · exact fun b hb => perform_block_of_not_precedes hb
    · exact fun t ht => ⟨handleAdded_of_mem ht, perform_handed_of_mem ht⟩
  · intro config best actions slot z hz
    obtain ⟨fresh, hwatch, hmirror, _, haccount⟩ := account_run_of_none rfl hz
    exact ⟨fresh, hwatch, hmirror, haccount⟩

/-- A payment is told of and leaves the mempool. A block too far ahead is rejected meanwhile. -/
def paidAndGone : List Action :=
  [.newClient, .watchScript 0 [4], .startClient 0, .push (.transactionAdded samplePaying),
    .handle 0, .receiveBlock 0 ⟨9, .blank⟩, .push (.transactionRemoved samplePaying.txid),
    .handle 0]

def paidOperations : List Operation :=
  [.watchScript [4], .addition samplePaying, .block ⟨9, .blank⟩, .removal samplePaying.txid]

theorem payment_is_watched_after_it_is_gone :
    ∃ z, ((opened .standard ⟨5, .zero⟩).run paidAndGone).hub.clients[0]? = some z ∧
      samplePaying.txid ∉ z.mirror ∧ ⟨samplePaying.txid, 1⟩ ∈ z.watch.outpoints ∧
      z.perform (.block ⟨9, .blank⟩) = z := by
  obtain ⟨hlaws, hlives⟩ := watch_list_is_sound_and_complete
  have hops : (opened .standard ⟨5, .zero⟩).trace (operationsAt 0) paidAndGone =
      paidOperations := by
    decide +kernel
  have hend : (((opened .standard ⟨5, .zero⟩).run paidAndGone).hub.clients[0]?.map
      fun z => (z.best, z.mirror.items)) = some (⟨5, .zero⟩, []) := by
    decide +kernel
  obtain ⟨z, hz, hvalues⟩ := Option.map_eq_some_iff.1 hend
  obtain ⟨hbest, hmirror⟩ := Prod.mk.inj hvalues
  obtain ⟨fresh, _, hempty, haccount⟩ := hlives .standard ⟨5, .zero⟩ paidAndGone 0 z hz
  rw [hops] at haccount
  have hwatch : z.watch = (fresh.performAll paidOperations).watch := congrArg Account.watch haccount
  have htaken : samplePaying ∈ (fresh.performAll [.watchScript [4]]).takesIn
      (.addition samplePaying) := by
    have hnew : samplePaying.txid ∉ (fresh.performAll [.watchScript [4]]).mirror := by
      change samplePaying.txid ∉ fresh.mirror
      rw [hempty]
      exact Distinct.not_mem_empty _
    rw [takesIn, if_neg hnew]
    exact List.mem_singleton_self _
  obtain ⟨_, _, houtpoints, _⟩ := hlaws fresh paidOperations
  obtain ⟨_, _, _, _, hrejected, _⟩ := hlaws z []
  refine ⟨z, hz, ?_, ?_, hrejected ⟨9, .blank⟩ ?_⟩
  · rw [Distinct.mem_def, hmirror]
    exact List.not_mem_nil
  · rw [hwatch]
    exact (houtpoints _).2 (.inr (.inr ⟨[.watchScript [4]], .addition samplePaying, _,
      samplePaying, 1, ⟨20000, [4]⟩, rfl, htaken, rfl,
      mem_scripts_performAll.2 (.inr List.mem_cons_self), rfl⟩))
  · change ¬ z.best.Precedes 9
    rw [hbest]
    decide

end Connection

end ChainFeed
