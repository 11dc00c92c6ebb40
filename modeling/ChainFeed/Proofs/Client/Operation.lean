import ChainFeed.Proofs.Client.Relevance

/-!
# What bears on the watch-list and the mirror

Of all that happens to a client, few things bear on what it watches and on which mempool
transactions it knows: the subscriber adds to the watch-list, a block is applied or rejected, and a
transaction is added or removed. An operation is one of these, and what a sequence of operations
comes to is seen from what each one does.
-/

namespace ChainFeed

namespace WatchList

theorem mem_paidBy_iff_exists {w : WatchList} {t : Transaction} {o : OutPoint} :
    o ∈ w.paidBy t ↔ ∃ (k : Nat) (out : TxOut), t.outputs[k]? = some out ∧
      out.script ∈ w.scripts ∧ o = ⟨t.txid, k.toUInt32⟩ := by
  constructor
  · intro ho
    obtain ⟨⟨out, k⟩, hk, hpaid⟩ := List.mem_filterMap.1 ho
    by_cases hs : out.script ∈ w.scripts
    · obtain rfl : ⟨t.txid, k.toUInt32⟩ = o := by simpa [hs] using hpaid
      exact ⟨k, out, List.mem_zipIdx_iff_getElem?.1 hk, hs, rfl⟩
    · simp [hs] at hpaid
  · rintro ⟨k, out, hk, hs, rfl⟩
    exact mem_paidBy hk hs

/-- A block adds the outputs of its transactions that pay a watched script, and no others. -/
theorem mem_outpoints_filterBlock_iff (w : WatchList) (b : Block) (o : OutPoint) :
    o ∈ (w.filterBlock b).1.outpoints ↔
      o ∈ w.outpoints ∨ ∃ t ∈ b.transactions, o ∈ w.paidBy t := by
  rw [filterBlock_eq_scan, mem_outpoints_scan]
  refine or_congr_right ⟨?_, ?_⟩
  · rintro ⟨t, ht, ho⟩
    exact ⟨t, (w.scan_sublist _).subset ht, ho⟩
  · rintro ⟨t, ht, ho⟩
    exact ⟨t, mem_scan_of_mem_paidBy ht ho, ho⟩

end WatchList

namespace Client

/-- Something that bears on the watch-list, the mirror or what is told of the mempool. -/
inductive Operation where
  | watchScript (s : Script)
  | watchOutpoints (l : List OutPoint)
  /-- A block is applied, or rejected. -/
  | block (b : PlacedBlock)
  | addition (t : Transaction)
  | removal (id : Txid)
  /-- A transaction is entered into the mirror without being told of. -/
  | handed (t : Transaction)
  deriving DecidableEq

def perform (x : Client) : Operation → Client
  | .watchScript s => x.watchScript s
  | .watchOutpoints l => x.watchOutpoints l
  | .block b =>
    match x.applyBlock b with
    | .ok after => after
    | .error _ => x
  | .addition t => x.handleAdded t
  | .removal id => (x.forgetTransaction id).1
  | .handed t => (x.receiveTransaction t).1

def performAll (x : Client) (ops : List Operation) : Client := ops.foldl perform x

/-- The transactions that an operation makes the client take in: those of a block that is applied,
and one that is new to the mirror. -/
def takesIn (x : Client) : Operation → List Transaction
  | .block b => if x.best.Precedes b.height then b.block.transactions else []
  | .addition t | .handed t => if t.txid ∈ x.mirror then [] else [t]
  | _ => []

def applies (x : Client) : Operation → List PlacedBlock
  | .block b => if x.best.Precedes b.height then [b] else []
  | _ => []

def clears (x : Client) : Operation → List Txid
  | .block b => if x.best.Precedes b.height then b.block.txids else []
  | .removal id => [id]
  | _ => []

def announces (x : Client) : Operation → List Transaction
  | .addition t => if t.txid ∈ x.mirror then [] else [t]
  | _ => []

/-- What one operation after the other gives rise to. -/
def collect {α : Type} (f : Client → Operation → List α) (x : Client) : List Operation → List α
  | [] => []
  | op :: rest => f x op ++ (x.perform op).collect f rest

/-- What bears on the operations of a client, and what it has told of the mempool. -/
structure Account where
  best : Stamp
  watch : WatchList
  mirror : Distinct Txid
  unconfirmed : List Transaction

def account (x : Client) : Account := ⟨x.best, x.watch, x.mirror, x.unconfirmed⟩

section
variable (x : Client) (op : Operation) (ops l m : List Operation)

@[simp] theorem performAll_nil : x.performAll [] = x := rfl

@[simp] theorem performAll_cons : x.performAll (op :: ops) = (x.perform op).performAll ops := rfl

theorem performAll_append : x.performAll (l ++ m) = (x.performAll l).performAll m :=
  List.foldl_append

end

section
variable {x y : Client} {op : Operation} {ops : List Operation} {b : PlacedBlock} {t : Transaction}

theorem perform_block_of_precedes (h : x.best.Precedes b.height) :
    x.perform (.block b) = x.applied b := by
  rw [perform, applyBlock_of_precedes h]

theorem perform_block_of_not_precedes (h : ¬ x.best.Precedes b.height) :
    x.perform (.block b) = x := by
  rw [perform, applyBlock_of_not_precedes h]

theorem perform_handed_of_mem (h : t.txid ∈ x.mirror) : x.perform (.handed t) = x := by
  rw [perform, receiveTransaction_of_mem h]

theorem perform_handed_of_not_mem (h : t.txid ∉ x.mirror) : x.perform (.handed t) =
    { x with mirror := x.mirror.insert t.txid, watch := x.watch.follow t } := by
  rw [perform, receiveTransaction_of_not_mem h]

/-- The account of a client after an operation, seen from the account before. -/
theorem account_perform (x : Client) (op : Operation) : (x.perform op).account =
    match op with
    | .watchScript s => { x.account with watch := x.watch.addScript s }
    | .watchOutpoints l => { x.account with watch := x.watch.addOutpoints l }
    | .block b =>
      if x.best.Precedes b.height then
        { x.account with
          best := b.stamp
          watch := (x.watch.filterBlock b.block).1
          mirror := x.mirror.eraseAll b.block.txids }
      else x.account
    | .addition t | .handed t =>
      if t.txid ∈ x.mirror then x.account
      else ⟨x.best, x.watch.follow t, x.mirror.insert t.txid, x.unconfirmed ++ x.announces op⟩
    | .removal id => { x.account with mirror := x.mirror.erase id } := by
  cases op with
  | block b =>
    by_cases hp : x.best.Precedes b.height
    · rw [perform_block_of_precedes hp, account, unconfirmed_applied]
      simp only [if_pos hp]
      rfl
    · rw [perform_block_of_not_precedes hp]
      simp only [if_neg hp]
  | addition t =>
    by_cases ht : t.txid ∈ x.mirror
    · simp only [perform, handleAdded_of_mem ht, if_pos ht]
    · simp only [perform, handleAdded_of_not_mem ht, if_neg ht, account, notify, unconfirmed,
        List.filterMap_append, announces]
      rfl
  | handed t =>
    by_cases ht : t.txid ∈ x.mirror
    · simp only [perform_handed_of_mem ht, if_pos ht]
    · simp only [perform_handed_of_not_mem ht, if_neg ht, announces, List.append_nil]
      rfl
  | watchScript s => rfl
  | watchOutpoints l => rfl
  | removal id => rfl

/-- What an operation makes of a client depends on its account only. -/
theorem account_perform_congr (h : x.account = y.account) (op : Operation) :
    (x.perform op).account = (y.perform op).account := by
  have hbest : x.best = y.best := congrArg Account.best h
  have hwatch : x.watch = y.watch := congrArg Account.watch h
  have hmirror : x.mirror = y.mirror := congrArg Account.mirror h
  have htold : x.unconfirmed = y.unconfirmed := congrArg Account.unconfirmed h
  rw [account_perform, account_perform]
  cases op <;> simp only [h, hbest, hwatch, hmirror, htold, announces]

theorem account_performAll_congr (h : x.account = y.account) (ops : List Operation) :
    (x.performAll ops).account = (y.performAll ops).account := by
  induction ops generalizing x y with
  | nil => exact h
  | cons op rest ih => exact ih (account_perform_congr h op)

/-- Only the subscriber adds scripts. -/
theorem mem_scripts_perform {s : Script} : s ∈ (x.perform op).watch.scripts ↔
    s ∈ x.watch.scripts ∨ .watchScript s = op := by
  have hwatch : (x.perform op).watch = _ := congrArg Account.watch (x.account_perform op)
  rw [hwatch]
  cases op with
  | watchScript s' =>
    rw [Operation.watchScript.injEq]
    exact Distinct.mem_insert
  | block b =>
    dsimp only
    split
    · simp [WatchList.scripts_filterBlock]
    · simp [account]
  | addition t =>
    dsimp only
    split <;> simp [account, WatchList.follow, WatchList.addOutpoints]
  | handed t =>
    dsimp only
    split <;> simp [account, WatchList.follow, WatchList.addOutpoints]
  | watchOutpoints l => simp [WatchList.addOutpoints]
  | removal id => simp [account]

/-- The outpoints of what an operation makes the client take in that pay a watched script. -/
def learns (x : Client) (op : Operation) : List OutPoint := (x.takesIn op).flatMap x.watch.paidBy

/-- An outpoint comes from the subscriber, or is an output of a transaction that is taken in and
pays a watched script. All such outputs come to be watched. -/
theorem mem_outpoints_perform {o : OutPoint} : o ∈ (x.perform op).watch.outpoints ↔
    o ∈ x.watch.outpoints ∨ (∃ l, .watchOutpoints l = op ∧ o ∈ l) ∨ o ∈ x.learns op := by
  have hwatch : (x.perform op).watch = _ := congrArg Account.watch (x.account_perform op)
  rw [hwatch, learns]
  cases op with
  | watchOutpoints l => simp [WatchList.addOutpoints, takesIn]
  | block b =>
    by_cases hp : x.best.Precedes b.height
    · simp [takesIn, hp, WatchList.mem_outpoints_filterBlock_iff]
    · simp [takesIn, hp, account]
  | addition t =>
    by_cases ht : t.txid ∈ x.mirror
    · simp [takesIn, ht, account]
    · simp [takesIn, ht, WatchList.mem_outpoints_follow]
  | handed t =>
    by_cases ht : t.txid ∈ x.mirror
    · simp [takesIn, ht, account]
    · simp [takesIn, ht, WatchList.mem_outpoints_follow]
  | watchScript s => simp [WatchList.addScript, takesIn]
  | removal id => simp [account, takesIn]

theorem mem_clears {id : Txid} : id ∈ x.clears op ↔
    op = .removal id ∨ ∃ b ∈ x.applies op, id ∈ b.block.txids := by
  cases op with
  | block b =>
    by_cases hp : x.best.Precedes b.height
    · simp [clears, applies, hp]
    · simp [clears, applies, hp]
  | removal id' => simp [clears, applies, eq_comm]
  | _ => simp [clears, applies]

/-- An id leaves the mirror by its removal and by a block that is applied only. -/
theorem mem_clears_of_not_mem {id : Txid} (hin : id ∈ x.mirror)
    (hout : id ∉ (x.perform op).mirror) : id ∈ x.clears op := by
  have hmirror : (x.perform op).mirror = _ := congrArg Account.mirror (x.account_perform op)
  rw [hmirror] at hout
  cases op with
  | block b =>
    by_cases hp : x.best.Precedes b.height
    · simpa [clears, hp, hin] using hout
    · simp [hp, account, hin] at hout
  | removal id' => simpa [clears, hin] using hout
  | addition t =>
    dsimp only at hout
    split at hout
    · exact absurd hin hout
    · exact absurd (Distinct.mem_insert.2 (.inl hin)) hout
  | handed t =>
    dsimp only at hout
    split at hout
    · exact absurd hin hout
    · exact absurd (Distinct.mem_insert.2 (.inl hin)) hout
  | watchScript s => exact absurd hin hout
  | watchOutpoints l => exact absurd hin hout

theorem unconfirmed_perform (x : Client) (op : Operation) :
    (x.perform op).unconfirmed = x.unconfirmed ++ x.announces op := by
  have htold : (x.perform op).unconfirmed = _ :=
    congrArg Account.unconfirmed (x.account_perform op)
  rw [htold]
  cases op with
  | block b =>
    dsimp only
    split <;> exact (List.append_nil _).symm
  | addition t =>
    by_cases ht : t.txid ∈ x.mirror
    · simp [announces, ht, account]
    · simp [ht]
  | handed t =>
    dsimp only
    split
    · exact (List.append_nil _).symm
    · rfl
  | watchScript s => exact (List.append_nil _).symm
  | watchOutpoints l => exact (List.append_nil _).symm
  | removal id => exact (List.append_nil _).symm

/-- What is told as unconfirmed is new to the mirror, and is there afterwards. -/
theorem mirror_of_announces (ht : t ∈ x.announces op) :
    t.txid ∉ x.mirror ∧ t.txid ∈ (x.perform op).mirror := by
  cases op with
  | addition t' =>
    by_cases hmem : t'.txid ∈ x.mirror
    · simp [announces, hmem] at ht
    · obtain rfl : t = t' := by simpa [announces, hmem] using ht
      have hmirror : (x.perform (.addition t)).mirror = _ :=
        congrArg Account.mirror (x.account_perform (.addition t))
      rw [hmirror]
      simp [hmem]
  | _ => cases ht

end

/-! ### Sequences of operations -/

section
variable {α : Type} {f : Client → Operation → List α} {x : Client} {ops : List Operation}

theorem mem_collect {v : α} : v ∈ x.collect f ops ↔ ∃ before op after,
    ops = before ++ op :: after ∧ v ∈ f (x.performAll before) op := by
  induction ops generalizing x with
  | nil => simp [collect]
  | cons op rest ih =>
    rw [collect, List.mem_append, ih]
    constructor
    · rintro (hv | ⟨before, op', after, rfl, hv⟩)
      · exact ⟨[], op, rest, rfl, hv⟩
      · exact ⟨op :: before, op', after, rfl, hv⟩
    · rintro ⟨before, op', after, heq, hv⟩
      obtain ⟨rfl, hop⟩ | ⟨before', rfl, hrest⟩ := List.cons_eq_append_iff.1 heq
      · obtain ⟨rfl, rfl⟩ := List.cons.inj hop
        exact .inl hv
      · exact .inr ⟨before', op', after, hrest, hv⟩

theorem mem_scripts_performAll {s : Script} : s ∈ (x.performAll ops).watch.scripts ↔
    s ∈ x.watch.scripts ∨ .watchScript s ∈ ops := by
  induction ops generalizing x with
  | nil => simp
  | cons op rest ih => rw [performAll_cons, ih, mem_scripts_perform, or_assoc, List.mem_cons]

theorem mem_outpoints_performAll {o : OutPoint} : o ∈ (x.performAll ops).watch.outpoints ↔
    o ∈ x.watch.outpoints ∨ (∃ l, .watchOutpoints l ∈ ops ∧ o ∈ l) ∨ o ∈ x.collect learns ops := by
  induction ops generalizing x with
  | nil => simp [collect]
  | cons op rest ih =>
    have hgiven : (∃ l, .watchOutpoints l ∈ op :: rest ∧ o ∈ l) ↔
        (∃ l, .watchOutpoints l = op ∧ o ∈ l) ∨ ∃ l, .watchOutpoints l ∈ rest ∧ o ∈ l := by
      simp only [List.mem_cons, or_and_right, exists_or]
    rw [performAll_cons, ih, mem_outpoints_perform, hgiven, collect, List.mem_append, or_assoc,
      or_or_or_comm]

/-- An id that is gone from the mirror has been taken out on the way. -/
theorem mem_collect_clears {id : Txid} (hin : id ∈ x.mirror)
    (hout : id ∉ (x.performAll ops).mirror) : id ∈ x.collect clears ops := by
  induction ops generalizing x with
  | nil => exact absurd hin hout
  | cons op rest ih =>
    rw [collect, List.mem_append]
    by_cases hnext : id ∈ (x.perform op).mirror
    · exact .inr (ih hnext hout)
    · exact .inl (mem_clears_of_not_mem hin hnext)

theorem unconfirmed_performAll (x : Client) (ops : List Operation) :
    (x.performAll ops).unconfirmed = x.unconfirmed ++ x.collect announces ops := by
  induction ops generalizing x with
  | nil => exact (List.append_nil _).symm
  | cons op rest ih => rw [performAll_cons, ih, unconfirmed_perform, List.append_assoc, collect]

end

end Client

end ChainFeed
