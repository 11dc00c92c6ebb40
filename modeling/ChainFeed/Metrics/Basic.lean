import ChainFeed.Error

/-!
# Counters and gauges

What a connection counts, and the families under which it shows the counts.
-/

namespace ChainFeed

structure Metrics where
  blocksPolled : Nat
  blockDeliveries : Nat
  transactionsPolled : Nat
  transactionDeliveries : Nat
  droppedDeliveries : Nat
  watermarkHeight : Nat
  mempoolTracked : Nat
  clientsRegistered : Nat
  /-- Failed queries by method, each method once. -/
  failures : List (String × Nat)
  deriving DecidableEq

namespace Metrics

def zero : Metrics := ⟨0, 0, 0, 0, 0, 0, 0, 0, []⟩

instance : Inhabited Metrics := ⟨zero⟩

/-- One more under `key`, which is put at the end when it is new. -/
def increment (key : String) : List (String × Nat) → List (String × Nat)
  | [] => [(key, 1)]
  | (k, n) :: rest => if k = key then (k, n + 1) :: rest else (k, n) :: increment key rest

/-- A failed query counts under its method, and any other error under a common label. -/
def failureLabel : Error → String
  | .queryFailed method _ => method
  | _ => "other"

def recordFailure (m : Metrics) (e : Error) : Metrics :=
  { m with failures := increment (failureLabel e) m.failures }

def total : List (String × Nat) → Nat
  | [] => 0
  | (_, n) :: rest => n + total rest

def totalFailures (m : Metrics) : Nat := total m.failures

theorem total_increment (key : String) (l : List (String × Nat)) :
    total (increment key l) = total l + 1 := by
  induction l with
  | nil => rfl
  | cons p l ih =>
    obtain ⟨k, n⟩ := p
    by_cases h : k = key <;> simp [increment, total, h, ih] <;> omega

@[simp] theorem totalFailures_recordFailure (m : Metrics) (e : Error) :
    (m.recordFailure e).totalFailures = m.totalFailures + 1 :=
  total_increment _ _

end Metrics

end ChainFeed
