import ChainFeed.Chain.Network
import ChainFeed.Chain.Stamp

/-!
# What can go wrong with a connection

Each constructor is a cause, and `message` is its wording.
-/

namespace ChainFeed

structure ClientId where
  value : UInt64
  deriving DecidableEq, Inhabited

instance : ToString ClientId := ⟨fun id => toString id.value.toNat⟩

inductive Error where
  | unreachable (reason : String)
  | networkMismatch (expected actual : Network)
  | invalidConfig (reason : String)
  | queryFailed (method reason : String)
  /-- A block does not sit directly on the best block at height `best`. -/
  | heightGap (best incoming : Height)
  | clientRemoved (id : ClientId)
  | clientLagging (id : ClientId)
  | connectionStopped
  | invalidAddress (reason : String)
  deriving DecidableEq

namespace Error

def message : Error → String
  | unreachable reason => "Backend unreachable: " ++ reason
  | networkMismatch expected actual =>
    "Backend network mismatch: expected " ++ expected.name ++ ", backend reports " ++ actual.name
  | invalidConfig reason => "Invalid configuration: " ++ reason
  | queryFailed method reason => "RPC query " ++ method ++ " failed: " ++ reason
  | heightGap best incoming =>
    "Height gap detected: local height " ++ toString best.toNat ++ ", incoming block " ++
      toString incoming.toNat
  | clientRemoved id => "Client " ++ toString id ++ " already removed"
  | clientLagging id => "Client " ++ toString id ++ " is lagging, delivery dropped"
  | connectionStopped => "Connection stopped"
  | invalidAddress reason => "Invalid address: " ++ reason

instance : ToString Error := ⟨message⟩

/-- A failed delivery that only means that the client is gone. -/
def isBenign : Error → Bool
  | clientRemoved _ => true
  | _ => false

/-- A gap ahead of the client, as opposed to a block it already has. -/
def isForwardGap : Error → Bool
  | heightGap best incoming => best.toNat + 1 < incoming.toNat
  | _ => false

end Error

def Stamp.requireNext (s : Stamp) (incoming : Height) : Except Error Unit :=
  if s.isFollowedBy incoming then .ok () else .error (.heightGap s.height incoming)

end ChainFeed
