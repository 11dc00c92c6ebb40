import Mathlib.Data.List.Chain
import ChainFeed.Proofs.Run.ChainAgreement
import ChainFeed.Simulation.Node

/-!
# Reorganisation of a simulated node

A reorganisation replaces the upper part of the chain by another branch. Whatever was done to the
node before, its chain stays linked and what lies below the fork stays as it is. The new branch is
as long as the old one, unless it was to replace the genesis block as well: that block is kept, and
the chain grows.
-/

namespace ChainFeed

theorem Linked.concat {chain : List Block} {a b : Block} (h : Linked chain)
    (hlast : chain.getLast? = some a) (hparent : b.parent = a.hash) : Linked (chain ++ [b]) := by
  refine List.isChain_append.2 ⟨h, List.isChain_singleton b, ?_⟩
  intro x hx y hy
  obtain rfl : a = x := Option.some.inj (hlast.symm.trans hx)
  obtain rfl : b = y := Option.some.inj hy
  exact hparent

namespace Node

inductive Deed where
  | mine (count : Nat)
  | mineMempool
  | reorganise (depth : Nat)
  | addTransaction (t : Transaction)
  | dropTransaction (id : Txid)
  deriving DecidableEq

def perform (n : Node) : Deed → Node
  | .mine count => (n.mine count).1
  | .mineMempool => n.mineMempool
  | .reorganise depth => n.reorganise depth
  | .addTransaction t => n.addTransaction t
  | .dropTransaction id => (n.dropTransaction id).1

def performAll (n : Node) (deeds : List Deed) : Node := deeds.foldl perform n

def height (n : Node) : Nat := n.later.length

variable {n : Node}

theorem getLast?_chain (n : Node) : n.chain.getLast? = some n.tip := by
  rw [chain, List.getLast?_cons, tip]

theorem getElem?_chain_of_prefix {a b : Node} (h : a.later <+: b.later) {k : Nat}
    (hk : k ≤ a.height) : b.chain[k]? = a.chain[k]? := by
  obtain ⟨more, hmore⟩ := h
  have hchain : b.chain = a.chain ++ more := by rw [chain, ← hmore]; rfl
  rw [hchain, List.getElem?_append_left]
  exact Nat.lt_succ_of_le hk

theorem linked_push (h : Linked n.chain) (txs : List Transaction) : Linked (n.push txs).chain :=
  h.concat (getLast?_chain n) rfl

section mine

theorem prefix_mine_later (n : Node) (count : Nat) : n.later <+: (n.mine count).1.later := by
  induction count generalizing n with
  | zero => exact List.prefix_rfl
  | succ count ih => exact (List.prefix_append _ _).trans (ih (n.push []))

theorem height_mine (n : Node) (count : Nat) : (n.mine count).1.height = n.height + count := by
  induction count generalizing n with
  | zero => rfl
  | succ count ih =>
    have hpush : (n.push []).height = n.height + 1 := List.length_append
    calc ((n.push []).mine count).1.height
        = n.height + 1 + count := by rw [ih, hpush]
      _ = n.height + (count + 1) := by omega

theorem pool_mine (n : Node) (count : Nat) : (n.mine count).1.pool = n.pool := by
  induction count generalizing n with
  | zero => rfl
  | succ count ih => exact ih (n.push [])

theorem linked_mine (h : Linked n.chain) (count : Nat) : Linked (n.mine count).1.chain := by
  induction count generalizing n with
  | zero => exact h
  | succ count ih => exact ih (linked_push h [])

/-- The last stamp that mining gives back is that of the tip. -/
theorem getLastD_mine (n : Node) (count : Nat) :
    (n.mine count).2.getLastD n.best = (n.mine count).1.best := by
  induction count generalizing n with
  | zero => rfl
  | succ count ih => exact List.getLastD_cons.trans (ih (n.push []))

end mine

section fork

theorem prefix_fork_later (n : Node) (depth : Nat) : (n.fork depth).later <+: n.later :=
  List.take_prefix _ _

theorem height_fork (n : Node) (depth : Nat) : (n.fork depth).height = n.height - depth := by
  simp only [height, fork, List.length_take]
  omega

theorem linked_fork (h : Linked n.chain) (depth : Nat) : Linked (n.fork depth).chain :=
  h.prefix (List.cons_prefix_cons.2 ⟨rfl, prefix_fork_later n depth⟩)

end fork

theorem linked_reorganise (h : Linked n.chain) (depth : Nat) : Linked (n.reorganise depth).chain :=
  linked_mine (linked_fork h depth) depth

theorem height_reorganise (n : Node) (depth : Nat) :
    (n.reorganise depth).height = max n.height depth := by
  rw [reorganise, height_mine, height_fork]
  omega

/-- Up to the fork the chain stays as it is. -/
theorem getElem?_reorganise {depth k : Nat} (h : k ≤ n.height - depth) :
    (n.reorganise depth).chain[k]? = n.chain[k]? := by
  have hfork : k ≤ (n.fork depth).height := by rwa [height_fork]
  rw [reorganise, getElem?_chain_of_prefix (prefix_mine_later _ depth) hfork,
    getElem?_chain_of_prefix (prefix_fork_later n depth) hfork]

theorem linked_perform (h : Linked n.chain) (deed : Deed) : Linked (n.perform deed).chain := by
  cases deed with
  | mine count => exact linked_mine h count
  | mineMempool => exact linked_push h n.pool
  | reorganise depth => exact linked_reorganise h depth
  | addTransaction t => exact h
  | dropTransaction id => exact h

theorem linked_performAll (h : Linked n.chain) (deeds : List Deed) :
    Linked (n.performAll deeds).chain := by
  induction deeds generalizing n with
  | nil => exact h
  | cons deed deeds ih => exact ih (linked_perform h deed)

/-- A reorganisation of a node in any state leaves its chain linked and its mempool alone, and gives
back the stamp of the new tip. The blocks up to the fork stay, the genesis block always. The chain
keeps its length as long as the fork is not below the genesis block; otherwise it is as high as the
reorganisation was to be deep. -/
theorem reorganisation_keeps_length_down_to_genesis (network : Network) (deeds : List Deed)
    (depth : Nat) :
    let n := (new network).performAll deeds
    let after := n.reorganise depth
    Linked after.chain ∧ after.height = max n.height depth ∧
      n.reorganisedTo depth = after.best ∧
      (∀ k ≤ n.height - depth, after.chain[k]? = n.chain[k]?) ∧
      after.chain.head? = some genesis ∧ after.pool = n.pool := by
  intro n after
  have hnew : Linked (new network).chain := List.isChain_singleton genesis
  have hlinked : Linked n.chain := linked_performAll hnew deeds
  refine ⟨linked_reorganise hlinked depth, height_reorganise n depth, getLastD_mine _ depth,
    fun k hk => getElem?_reorganise hk, rfl, ?_⟩
  exact pool_mine (n.fork depth) depth

theorem second_reorganisation_keeps_first_block :
    let n := (new .regtest).performAll [.mine 3, .reorganise 1]
    n.height = 3 ∧ (n.reorganise 2).height = 3 ∧
      (1 ≤ n.height - 2 ∧ (n.reorganise 2).chain[1]? = n.chain[1]?) ∧
      Linked (n.reorganise 2).chain := by
  obtain ⟨hlinked, hheight, _, hkept, _⟩ :=
    reorganisation_keeps_length_down_to_genesis .regtest [.mine 3, .reorganise 1] 2
  exact ⟨rfl, hheight, ⟨by decide, hkept 1 (by decide)⟩, hlinked⟩

/-- The genesis block is not replaced, and yet one block is mined for it. -/
theorem reorganisation_of_genesis_lengthens_chain :
    (new .regtest).height = 0 ∧ (new .regtest).best.height = 0 ∧
      ((new .regtest).reorganise 1).height = 1 ∧
      ((new .regtest).reorganisedTo 1).height = 1 :=
  ⟨rfl, rfl, rfl, rfl⟩

end Node

end ChainFeed
