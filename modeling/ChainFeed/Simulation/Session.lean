import ChainFeed.Address.Watching
import ChainFeed.Simulation.Ticking

/-!
# Sessions

What is done to a simulated connection from outside: its clock goes on, something happens to its
node, triggers are set, and subscribers and the outside act. Everything settles before the next
command.
-/

namespace ChainFeed.Simulation

inductive Command where
  | newClient
  | start
  | stop
  | advance (ms : Nat)
  | catchUp (slot : Nat)
  | watchAddressText (slot : Nat) (text : String)
  | watchAddresses (slot : Nat) (addresses : List Address)
  | act (a : Action)
  | change (f : Node → Node)
  | claimBest (best : Option Stamp)
  | setTrigger (t : Trigger)

/-- Nothing is watched if the text is no address. -/
def readAndWatch (text : String) (c : Client) : Client :=
  match c.watchAddressText text with
  | .ok (after, _) => after
  | .error _ => c

def perform : Command → Run Unit
  | .newClient => do let _ ← newClient
  | .start => do let _ ← start
  | .stop => stop
  | .advance ms => advance ms
  | .catchUp slot => do let _ ← catchUp slot
  | .watchAddressText slot text => modifyClient slot (readAndWatch text)
  | .watchAddresses slot addresses => modifyClient slot fun c => c.watchAddresses addresses
  | .act a => onConnection fun c => (c.step a, ())
  | .change f => modify fun s => { s with node := f s.node }
  | .claimBest best => modify fun s => { s with claimedBest := best }
  | .setTrigger t => setTrigger t

def session : List Command → Run Unit
  | [] => return
  | command :: rest => do
    perform command
    settle
    session rest

end ChainFeed.Simulation
