/-!
# Reading bytes from the front

A reader takes what it needs from the front of its input and returns the rest, or says why it
cannot.
-/

namespace ChainFeed.Consensus

/-- No vector of a block is longer than this. -/
def vectorLimit : Nat := 4000000

inductive Fault where
  | endOfData
  | nonMinimalSize
  | unsupportedFlag (flag : UInt8)
  | emptyWitnesses
  | trailingData
  | oversized (requested : Nat)
  deriving DecidableEq

def Fault.message : Fault → String
  | endOfData => "IO error"
  | nonMinimalSize => "non-minimal varint"
  | unsupportedFlag flag => "unsupported segwit version: " ++ toString flag.toNat
  | emptyWitnesses => "parse failed: witness flag set but no witnesses present"
  | trailingData =>
    "parse failed: data not consumed entirely when explicitly deserializing"
  | oversized requested =>
    "allocation of oversized vector: requested " ++ toString requested ++ ", maximum " ++
      toString vectorLimit

def Reader (α : Type) : Type := List UInt8 → Except Fault (α × List UInt8)

namespace Reader

variable {α β : Type}

def fail (f : Fault) : Reader α := fun _ => .error f

instance : Monad Reader where
  pure a := fun s => .ok (a, s)
  bind x f := fun s =>
    match x s with
    | .ok (a, rest) => f a rest
    | .error e => .error e

@[simp] theorem pure_apply (a : α) (s : List UInt8) : (pure a : Reader α) s = .ok (a, s) := rfl

@[simp] theorem fail_apply (f : Fault) (s : List UInt8) : (fail f : Reader α) s = .error f := rfl

theorem bind_of_ok {x : Reader α} {f : α → Reader β} {s rest : List UInt8} {a : α}
    (h : x s = .ok (a, rest)) : (x >>= f) s = f a rest := by
  show (match x s with | .ok (a, rest) => f a rest | .error e => .error e) = f a rest
  rw [h]

theorem bind_eq_ok_iff {x : Reader α} {f : α → Reader β} {s rest : List UInt8} {b : β} :
    (x >>= f) s = .ok (b, rest) ↔ ∃ a mid, x s = .ok (a, mid) ∧ f a mid = .ok (b, rest) := by
  show (match x s with | .ok (a, rest) => f a rest | .error e => .error e) = .ok (b, rest) ↔ _
  cases h : x s with
  | error e => simp
  | ok p =>
    obtain ⟨c, mid⟩ := p
    simp only [Except.ok.injEq, Prod.mk.injEq]
    constructor
    · intro hf
      exact ⟨c, mid, ⟨rfl, rfl⟩, hf⟩
    · rintro ⟨_, _, ⟨rfl, rfl⟩, hf⟩
      exact hf

def splitExactly : Nat → List UInt8 → Option (List UInt8 × List UInt8)
  | 0, s => some ([], s)
  | _ + 1, [] => none
  | n + 1, b :: s => (splitExactly n s).map fun (taken, rest) => (b :: taken, rest)

def byte : Reader UInt8
  | [] => .error .endOfData
  | b :: rest => .ok (b, rest)

def bytes (n : Nat) : Reader (List UInt8) := fun s =>
  match splitExactly n s with
  | some p => .ok p
  | none => .error .endOfData

def times (r : Reader α) : Nat → Reader (List α)
  | 0 => pure []
  | n + 1 => do
    let a ← r
    let rest ← times r n
    pure (a :: rest)

/-- Reads a value that takes up the whole input. -/
def whole (r : Reader α) (s : List UInt8) : Except Fault α :=
  match r s with
  | .ok (a, []) => .ok a
  | .ok (_, _ :: _) => .error .trailingData
  | .error e => .error e

theorem splitExactly_append (l rest : List UInt8) :
    splitExactly l.length (l ++ rest) = some (l, rest) := by
  induction l with
  | nil => rfl
  | cons b l ih => simp [splitExactly, ih]

theorem eq_append_of_splitExactly {n : Nat} {s taken rest : List UInt8}
    (h : splitExactly n s = some (taken, rest)) : s = taken ++ rest ∧ taken.length = n := by
  fun_induction splitExactly n s generalizing taken rest with
  | case1 => simp_all
  | case2 => simp at h
  | case3 n b s ih =>
    simp only [Option.map_eq_some_iff, Prod.mk.injEq, Prod.exists] at h
    obtain ⟨t, r, hs, rfl, rfl⟩ := h
    obtain ⟨rfl, rfl⟩ := ih hs
    simp

theorem whole_eq_ok_iff {r : Reader α} {s : List UInt8} {a : α} :
    r.whole s = .ok a ↔ r s = .ok (a, []) := by
  unfold whole
  cases r s with
  | error e => simp
  | ok p =>
    obtain ⟨b, rest⟩ := p
    cases rest <;> simp

end Reader

end ChainFeed.Consensus
