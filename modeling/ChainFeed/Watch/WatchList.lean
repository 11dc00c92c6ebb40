import ChainFeed.Chain.Block
import ChainFeed.Data.Distinct

/-!
# Watch-lists

A watch-list holds output scripts and outpoints. A transaction matches it when it pays a watched
script or spends a watched outpoint, and the outputs of a matching transaction that pay a watched
script are watched from then on, so that a later spend matches as well.
-/

namespace ChainFeed

structure WatchList where
  scripts : Distinct Script
  outpoints : Distinct OutPoint
  deriving DecidableEq

namespace WatchList

def empty : WatchList := ⟨.empty, .empty⟩

instance : Inhabited WatchList := ⟨empty⟩

def isEmpty (w : WatchList) : Bool := w.scripts.isEmpty && w.outpoints.isEmpty

def addScript (w : WatchList) (s : Script) : WatchList := { w with scripts := w.scripts.insert s }

def addOutpoint (w : WatchList) (o : OutPoint) : WatchList :=
  { w with outpoints := w.outpoints.insert o }

def addOutpoints (w : WatchList) (l : List OutPoint) : WatchList :=
  { w with outpoints := w.outpoints.insertAll l }

def hits (w : WatchList) (t : Transaction) : Bool :=
  t.inputs.any (fun i => i.spends ∈ w.outpoints) || t.outputs.any fun o => o.script ∈ w.scripts

/-- The outputs of `t` that pay a watched script, in order. -/
def paidBy (w : WatchList) (t : Transaction) : List OutPoint :=
  let txid := t.txid
  t.outputs.zipIdx.filterMap fun (o, k) =>
    if o.script ∈ w.scripts then some ⟨txid, k.toUInt32⟩ else none

def follow (w : WatchList) (t : Transaction) : WatchList := w.addOutpoints (w.paidBy t)

/-- Goes through transactions in order: the matching ones, and the watch-list that follows them. -/
def scan (w : WatchList) : List Transaction → WatchList × List Transaction
  | [] => (w, [])
  | t :: rest =>
    if w.hits t then
      let (after, relevant) := (w.follow t).scan rest
      (after, t :: relevant)
    else w.scan rest

/-- The transactions of a block that match, with nothing to look for in an empty watch-list. -/
def filterBlock (w : WatchList) (b : Block) : WatchList × List Transaction :=
  if w.isEmpty then (w, []) else w.scan b.transactions

@[simp] theorem scripts_addOutpoints (w : WatchList) (l : List OutPoint) :
    (w.addOutpoints l).scripts = w.scripts := rfl

@[simp] theorem scripts_follow (w : WatchList) (t : Transaction) :
    (w.follow t).scripts = w.scripts := rfl

@[simp] theorem scan_nil (w : WatchList) : w.scan [] = (w, []) := rfl

theorem scan_cons_of_hits {w : WatchList} {t : Transaction} (h : w.hits t = true)
    (rest : List Transaction) :
    w.scan (t :: rest) = (((w.follow t).scan rest).1, t :: ((w.follow t).scan rest).2) := by
  simp [scan, h]

theorem scan_cons_of_not_hits {w : WatchList} {t : Transaction} (h : w.hits t = false)
    (rest : List Transaction) : w.scan (t :: rest) = w.scan rest := by
  simp [scan, h]

end WatchList

end ChainFeed
