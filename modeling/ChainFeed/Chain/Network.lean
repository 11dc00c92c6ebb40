/-!
# Networks

The five chains a node can serve, by the names that configurations and messages use.
-/

namespace ChainFeed

inductive Network where
  | bitcoin
  | testnet
  | testnet4
  | signet
  | regtest
  deriving DecidableEq, Inhabited

namespace Network

def all : List Network := [bitcoin, testnet, testnet4, signet, regtest]

def name : Network → String
  | bitcoin => "bitcoin"
  | testnet => "testnet"
  | testnet4 => "testnet4"
  | signet => "signet"
  | regtest => "regtest"

instance : ToString Network := ⟨name⟩

/-- Names are lower case and matched exactly. -/
def ofName? (s : String) : Option Network := all.find? fun n => n.name = s

/-- The capitalised name that a client's description shows. -/
def title : Network → String
  | bitcoin => "Bitcoin"
  | testnet => "Testnet"
  | testnet4 => "Testnet4"
  | signet => "Signet"
  | regtest => "Regtest"

@[simp] theorem ofName?_name (n : Network) : ofName? n.name = some n := by cases n <;> rfl

theorem name_of_ofName? {s : String} {n : Network} (h : ofName? s = some n) : n.name = s := by
  simpa using List.find?_some h

end Network

end ChainFeed
