import ChainFeed.Client.Apply
import Mathlib.Data.List.Basic

/-!
# What applying a block comes to

A block that sits on the best block is applied, and no other changes the client. From this follow
the ways in which the handling of a block, the start of a catch-up and the arrival of a fetched
block can end. Later modules go through these ways and do not open the functions again.
-/

namespace ChainFeed

/-- Heights over the naturals: `next` is the one just above. -/
def Stamp.Precedes (s : Stamp) (next : Height) : Prop := next.toNat = s.height.toNat + 1

instance (s : Stamp) (next : Height) : Decidable (s.Precedes next) :=
  inferInstanceAs (Decidable (_ = _))

theorem Stamp.requireNext_of_precedes {s : Stamp} {next : Height} (h : s.Precedes next) :
    s.requireNext next = .ok () := by
  rw [requireNext, if_pos (isFollowedBy_iff.2 h)]

theorem Stamp.requireNext_of_not_precedes {s : Stamp} {next : Height} (h : ¬ s.Precedes next) :
    s.requireNext next = .error (.heightGap s.height next) := by
  rw [requireNext, if_neg (fun h' => h (isFollowedBy_iff.1 h'))]

theorem Height.toNat_add_one {h t : Height} (hlt : h.toNat < t.toNat) :
    (h + 1).toNat = h.toNat + 1 := by
  have ht : t.toNat < UInt32.size := t.toNat_lt
  exact Height.next?_eq_some_iff.1 (if_pos (by omega))

theorem Height.toNat_lt_of_ne {h t : Height} (hle : h.toNat ≤ t.toNat) (hne : h ≠ t) :
    h.toNat < t.toNat :=
  Nat.lt_of_le_of_ne hle (fun he => hne (UInt32.toNat_inj.1 he))

theorem Height.toNat_sub_one {h : Height} (hpos : 0 < h.toNat) :
    (h - 1).toNat = h.toNat - 1 :=
  UInt32.toNat_sub_of_le _ _ (by rw [UInt32.le_iff_toNat_le]; exact hpos)

namespace Client

def applied (c : Client) (b : PlacedBlock) : Client :=
  ({ c with
      best := b.stamp
      watch := (c.watch.filterBlock b.block).1
      mirror := c.mirror.eraseAll b.block.txids }).emitBlock b.stamp (c.watch.filterBlock b.block).2

section
variable (c : Client) (b : PlacedBlock)

@[simp] theorem applied_best : (c.applied b).best = b.stamp := rfl

@[simp] theorem applied_phase : (c.applied b).phase = c.phase := rfl

@[simp] theorem applied_autoCatchUp : (c.applied b).autoCatchUp = c.autoCatchUp := rfl

@[simp] theorem applied_inbox : (c.applied b).inbox = c.inbox := rfl

@[simp] theorem applied_catchUp : (c.applied b).catchUp = c.catchUp := rfl

@[simp] theorem applied_held : (c.applied b).held = c.held := rfl

@[simp] theorem applied_last : (c.applied b).last = c.last := rfl

def blockNotes : List Notification :=
  (if c.wantsBlocks then [.blockConnected b.stamp] else []) ++
    (c.watch.filterBlock b.block).2.map (fun t => .relevantTransaction t (some b.stamp)) ++
    [.filteredBlockConnected b.stamp (c.watch.filterBlock b.block).2]

theorem applied_sent : (c.applied b).sent = c.sent ++ c.blockNotes b := by
  simp only [applied, emitBlock, blockNotes, List.append_assoc]

end

theorem receiveBlock_of_precedes {c : Client} {b : PlacedBlock} (h : c.best.Precedes b.height) :
    c.receiveBlock b = .ok ({ c with
      best := b.stamp
      watch := (c.watch.filterBlock b.block).1
      mirror := c.mirror.eraseAll b.block.txids }, (c.watch.filterBlock b.block).2) := by
  rw [receiveBlock, Stamp.requireNext_of_precedes h]
  rfl

theorem receiveBlock_of_not_precedes {c : Client} {b : PlacedBlock}
    (h : ¬ c.best.Precedes b.height) :
    c.receiveBlock b = .error (.heightGap c.best.height b.height) := by
  rw [receiveBlock, Stamp.requireNext_of_not_precedes h]
  rfl

/-- The client to which a block is handed past its inbox. -/
def received (c : Client) (b : PlacedBlock) : Client :=
  match c.receiveBlock b with
  | .ok (after, _) => after
  | .error _ => c

theorem received_of_precedes {c : Client} {b : PlacedBlock} (h : c.best.Precedes b.height) :
    c.received b = { c with
      best := b.stamp
      watch := (c.watch.filterBlock b.block).1
      mirror := c.mirror.eraseAll b.block.txids } := by
  rw [received, receiveBlock_of_precedes h]

theorem received_of_not_precedes {c : Client} {b : PlacedBlock} (h : ¬ c.best.Precedes b.height) :
    c.received b = c := by
  rw [received, receiveBlock_of_not_precedes h]

theorem applyBlock_of_precedes {c : Client} {b : PlacedBlock} (h : c.best.Precedes b.height) :
    c.applyBlock b = .ok (c.applied b) := by
  rw [applyBlock, receiveBlock_of_precedes h]
  rfl

theorem applyBlock_of_not_precedes {c : Client} {b : PlacedBlock}
    (h : ¬ c.best.Precedes b.height) :
    c.applyBlock b = .error (.heightGap c.best.height b.height) := by
  rw [applyBlock, receiveBlock_of_not_precedes h]
  rfl

/-- The end of a catch-up up to the block that caused it. -/
def settled (c : Client) (u : CatchUp) : Client :=
  if u.start.height < c.best.height then
    ({ c with catchUp := none }).notify (.caughtUp u.start c.best)
  else { c with catchUp := none }

section
variable (c : Client) (u : CatchUp)

@[simp] theorem settled_best : (c.settled u).best = c.best := by
  unfold settled; split <;> rfl

@[simp] theorem settled_catchUp : (c.settled u).catchUp = none := by
  unfold settled; split <;> rfl

@[simp] theorem settled_phase : (c.settled u).phase = c.phase := by
  unfold settled; split <;> rfl

@[simp] theorem settled_autoCatchUp : (c.settled u).autoCatchUp = c.autoCatchUp := by
  unfold settled; split <;> rfl

@[simp] theorem settled_held : (c.settled u).held = c.held := by
  unfold settled; split <;> rfl

@[simp] theorem settled_last : (c.settled u).last = c.last := by
  unfold settled; split <;> rfl

@[simp] theorem settled_inbox : (c.settled u).inbox = c.inbox := by
  unfold settled; split <;> rfl

end

/-- A catch-up ends with its cause applied, or without anything applied. -/
theorem closeCatchUp_cases (c : Client) (u : CatchUp) :
    (∃ b, u.cause = some b ∧ c.best.Precedes b.height ∧
      c.closeCatchUp u = (c.settled u).applied b) ∨
    ((∀ b, u.cause = some b → ¬ c.best.Precedes b.height) ∧ c.closeCatchUp u = c.settled u) := by
  cases hu : u.cause with
  | none => exact .inr ⟨by simp, by simp only [closeCatchUp, hu, settled]⟩
  | some b =>
    by_cases hb : c.best.Precedes b.height
    · have happly : (c.settled u).applyBlock b = .ok ((c.settled u).applied b) :=
        applyBlock_of_precedes (by rwa [settled_best])
      refine .inl ⟨b, rfl, hb, ?_⟩
      simp only [settled] at happly ⊢
      simp only [closeCatchUp, hu, happly]
    · have happly : (c.settled u).applyBlock b = .error _ :=
        applyBlock_of_not_precedes (by rwa [settled_best])
      refine .inr ⟨by rintro _ ⟨⟩; exact hb, ?_⟩
      simp only [settled] at happly ⊢
      simp only [closeCatchUp, hu, happly]

theorem catchUp_closeCatchUp (c : Client) (u : CatchUp) : (c.closeCatchUp u).catchUp = none := by
  obtain ⟨b, _, _, h⟩ | ⟨_, h⟩ := c.closeCatchUp_cases u
  · rw [h, applied_catchUp, settled_catchUp]
  · rw [h, settled_catchUp]

/-- A catch-up that has just begun and has nothing to fetch tells of nothing. -/
theorem settled_start (c : Client) (next target : Height) (cause : Option PlacedBlock) :
    c.settled ⟨c.best, next, target, cause⟩ = { c with catchUp := none } := by
  rw [settled, if_neg (by rw [UInt32.lt_iff_toNat_lt]; exact Nat.lt_irrefl _)]

theorem startCatchUp_of_lt {c : Client} {target : Height} {cause : Option PlacedBlock}
    (hlt : c.best.height.toNat < target.toNat) (hs : c.isStopped = false) :
    c.startCatchUp target cause =
      { c with catchUp := some ⟨c.best, c.best.height + 1, target, cause⟩ } := by
  rw [startCatchUp, if_pos]
  simpa [UInt32.lt_iff_toNat_lt, hs] using hlt

theorem startCatchUp_of_not_lt {c : Client} {target : Height} {cause : Option PlacedBlock}
    (h : c.best.height.toNat < target.toNat → c.isStopped = true) :
    c.startCatchUp target cause =
      c.closeCatchUp ⟨c.best, c.best.height + 1, target, cause⟩ := by
  rw [startCatchUp, if_neg]
  simp only [Bool.and_eq_true, decide_eq_true_eq, Bool.not_eq_true', UInt32.lt_iff_toNat_lt]
  rintro ⟨hlt, hs⟩
  rw [h hlt] at hs
  cases hs

/-- The subscriber's catch-up begins to fetch, or there is nothing to do. -/
theorem startCatchUp_none_cases (c : Client) (target : Height) :
    (c.best.height.toNat < target.toNat ∧ c.isStopped = false ∧ c.startCatchUp target none =
      { c with catchUp := some ⟨c.best, c.best.height + 1, target, none⟩ }) ∨
    c.startCatchUp target none = { c with catchUp := none } := by
  by_cases h : c.best.height.toNat < target.toNat ∧ c.isStopped = false
  · exact .inl ⟨h.1, h.2, startCatchUp_of_lt h.1 h.2⟩
  · refine .inr ?_
    rw [startCatchUp_of_not_lt (fun hlt => by simpa [hlt] using h)]
    exact settled_start c _ _ _

/-- A stopped client fetches nothing and drops the block that would have needed it. -/
theorem startCatchUp_of_isStopped {c : Client} {b : PlacedBlock} (target : Height)
    (hs : c.isStopped = true) (hp : ¬ c.best.Precedes b.height) :
    c.startCatchUp target (some b) = { c with catchUp := none } := by
  rw [startCatchUp_of_not_lt (fun _ => hs)]
  obtain ⟨b', hb', hp', _⟩ | ⟨_, hc⟩ :=
    closeCatchUp_cases c ⟨c.best, c.best.height + 1, target, some b⟩
  · cases hb'
    exact absurd hp' hp
  · exact hc.trans (settled_start c _ _ _)

/-- The handling of a block, by where the block lies. A gap makes the client fetch only if it is
set to and has not been stopped. -/
theorem handleBlock_cases {c : Client} (hidle : c.catchUp = none) (b : PlacedBlock) :
    (c.best.Precedes b.height ∧ c.handleBlock b = c.applied b) ∨
    (b.height.toNat ≤ c.best.height.toNat ∧ c.handleBlock b = c) ∨
    (c.best.height.toNat + 1 < b.height.toNat ∧
      (c.autoCatchUp = true → c.isStopped = true) ∧
      c.handleBlock b = c.notify (.heightGap c.best.height b.height)) ∨
    (c.best.height.toNat + 1 < b.height.toNat ∧ c.autoCatchUp = true ∧ c.isStopped = false ∧
      c.handleBlock b = { c.notify (.heightGap c.best.height b.height) with
        catchUp := some ⟨c.best, c.best.height + 1, b.height - 1, some b⟩ }) := by
  by_cases hp : c.best.Precedes b.height
  · exact .inl ⟨hp, by simp only [handleBlock, applyBlock_of_precedes hp]⟩
  refine .inr ?_
  by_cases hg : c.best.height.toNat + 1 < b.height.toNat
  · have ht : (b.height - 1).toNat = b.height.toNat - 1 := Height.toNat_sub_one (by omega)
    have hh : c.handleBlock b =
        if c.autoCatchUp then
          (c.notify (.heightGap c.best.height b.height)).startCatchUp (b.height - 1) (some b)
        else c.notify (.heightGap c.best.height b.height) := by
      simp only [handleBlock, applyBlock_of_not_precedes hp, Error.isForwardGap, hg,
        decide_true, if_true]
      rfl
    rw [hh]
    by_cases ha : c.autoCatchUp = true
    · rw [if_pos ha]
      by_cases hs : c.isStopped = true
      · refine .inr (.inl ⟨hg, fun _ => hs, ?_⟩)
        refine (startCatchUp_of_isStopped (c := c.notify _) _ hs hp).trans ?_
        change { c.notify (.heightGap c.best.height b.height) with catchUp := none } =
          { c.notify (.heightGap c.best.height b.height) with catchUp := c.catchUp }
        rw [hidle]
      · have hs' : c.isStopped = false := by simpa using hs
        have hlt : c.best.height.toNat < (b.height - 1).toNat := by omega
        exact .inr (.inr ⟨hg, ha, hs', startCatchUp_of_lt hlt hs'⟩)
    · rw [if_neg ha]
      exact .inr (.inl ⟨hg, fun h => absurd h ha, rfl⟩)
  · have hle : b.height.toNat ≤ c.best.height.toNat := by
      have : b.height.toNat ≠ c.best.height.toNat + 1 := hp
      omega
    refine .inl ⟨hle, ?_⟩
    simp [handleBlock, applyBlock_of_not_precedes hp, Error.isForwardGap, hg]

section
variable {c : Client} {t : Transaction}

theorem receiveTransaction_of_mem (h : t.txid ∈ c.mirror) : c.receiveTransaction t = (c, false) :=
  if_pos h

theorem receiveTransaction_of_not_mem (h : t.txid ∉ c.mirror) : c.receiveTransaction t =
    ({ c with mirror := c.mirror.insert t.txid, watch := c.watch.follow t }, true) :=
  if_neg h

theorem handleAdded_of_mem (h : t.txid ∈ c.mirror) : c.handleAdded t = c := by
  rw [handleAdded, receiveTransaction_of_mem h]
  rfl

/-- A transaction that is new to the mirror is followed and told of. -/
theorem handleAdded_of_not_mem (h : t.txid ∉ c.mirror) : c.handleAdded t =
    ({ c with mirror := c.mirror.insert t.txid, watch := c.watch.follow t }).notify
      (.relevantTransaction t none) := by
  rw [handleAdded, receiveTransaction_of_not_mem h]
  rfl

end

section
variable {c : Client} {u : CatchUp} {block : Block}

theorem resumeCatchUp_of_none (h : c.catchUp = none) (answer : Except Error Block) :
    c.resumeCatchUp answer = (c, none) := by
  simp only [resumeCatchUp, h]

theorem resumeCatchUp_error (h : c.catchUp = some u) (e : Error) :
    c.resumeCatchUp (.error e) = ({ c with catchUp := none }, some e) := by
  simp only [resumeCatchUp, h]

theorem resumeCatchUp_of_precedes (h : c.catchUp = some u) (hp : c.best.Precedes u.next) :
    c.resumeCatchUp (.ok block) = ((c.applied ⟨u.next, block⟩).advanceCatchUp u, none) := by
  simp only [resumeCatchUp, h, applyBlock_of_precedes (b := ⟨u.next, block⟩) hp]

/-- A fetched block that is not the next one is passed over, or breaks the catch-up off. -/
theorem resumeCatchUp_of_not_precedes (h : c.catchUp = some u) (hp : ¬ c.best.Precedes u.next) :
    c.resumeCatchUp (.ok block) = (c.advanceCatchUp u, none) ∨
    c.resumeCatchUp (.ok block) =
      ({ c with catchUp := none }, some (.heightGap c.best.height u.next)) := by
  simp only [resumeCatchUp, h, applyBlock_of_not_precedes (b := ⟨u.next, block⟩) hp]
  split
  · exact .inr rfl
  · exact .inl rfl

theorem advanceCatchUp_of_last (h : u.next = u.target ∨ c.isStopped = true) :
    c.advanceCatchUp u = c.closeCatchUp u := by
  rw [advanceCatchUp, if_pos (by simpa using h)]

theorem advanceCatchUp_of_not_last (h : u.next ≠ u.target) (hs : c.isStopped = false) :
    c.advanceCatchUp u = { c with catchUp := some { u with next := u.next + 1 } } := by
  rw [advanceCatchUp, if_neg (by simp [h, hs])]

end

/-- What all the steps of fetching and applying blocks keep: that a catch-up begins, goes on or
ends, that one is told as done, that a gap is told of, and that a block is applied. -/
structure KeptByFetching (P : Client → Prop) : Prop where
  catchUp : ∀ {c : Client} (u : Option CatchUp), P c → P { c with catchUp := u }
  caughtUp : ∀ {c : Client} (start best : Stamp), P c → P (c.notify (.caughtUp start best))
  gap : ∀ {c : Client} (best incoming : Height), P c → P (c.notify (.heightGap best incoming))
  applied : ∀ {c : Client} (b : PlacedBlock), P c → P (c.applied b)

namespace KeptByFetching

variable {P : Client → Prop} {c : Client}

theorem closeCatchUp (h : KeptByFetching P) (hc : P c) (u : CatchUp) : P (c.closeCatchUp u) := by
  have hset : P (c.settled u) := by
    unfold settled
    split
    · exact h.caughtUp _ _ (h.catchUp none hc)
    · exact h.catchUp none hc
  obtain ⟨b, _, _, heq⟩ | ⟨_, heq⟩ := c.closeCatchUp_cases u
  · rw [heq]
    exact h.applied b hset
  · rwa [heq]

theorem startCatchUp (h : KeptByFetching P) (hc : P c) (target : Height)
    (cause : Option PlacedBlock) : P (c.startCatchUp target cause) := by
  unfold Client.startCatchUp
  dsimp only
  split
  · exact h.catchUp _ hc
  · exact h.closeCatchUp hc _

theorem advanceCatchUp (h : KeptByFetching P) (hc : P c) (u : CatchUp) :
    P (c.advanceCatchUp u) := by
  unfold Client.advanceCatchUp
  split
  · exact h.closeCatchUp hc u
  · exact h.catchUp _ hc

theorem resumeCatchUp (h : KeptByFetching P) (hc : P c) (answer : Except Error Block) :
    P (c.resumeCatchUp answer).1 := by
  cases hu : c.catchUp with
  | none => rwa [resumeCatchUp_of_none hu]
  | some u =>
    cases answer with
    | error e =>
      rw [resumeCatchUp_error hu]
      exact h.catchUp none hc
    | ok block =>
      by_cases hp : c.best.Precedes u.next
      · rw [resumeCatchUp_of_precedes hu hp]
        exact h.advanceCatchUp (h.applied _ hc) u
      · obtain heq | heq : c.resumeCatchUp (.ok block) = _ ∨ c.resumeCatchUp (.ok block) = _ :=
          resumeCatchUp_of_not_precedes hu hp
        · rw [heq]
          exact h.advanceCatchUp hc u
        · rw [heq]
          exact h.catchUp none hc

theorem handleBlock (h : KeptByFetching P) (hc : P c) (b : PlacedBlock) :
    P (c.handleBlock b) := by
  by_cases hp : c.best.Precedes b.height
  · simp only [Client.handleBlock, applyBlock_of_precedes hp]
    exact h.applied b hc
  · simp only [Client.handleBlock, applyBlock_of_not_precedes hp]
    split
    · split
      · exact h.startCatchUp (h.gap _ _ hc) _ _
      · exact h.gap _ _ hc
    · exact hc

end KeptByFetching

end Client

end ChainFeed
