import ChainFeed.Address.Basic
import ChainFeed.Client.Basic

/-!
# Watching addresses

To watch an address is to watch its script.
-/

namespace ChainFeed

def WatchList.addAddress (w : WatchList) (a : Address) : WatchList := w.addScript a.script

namespace Client

def watchAddress (c : Client) (a : Address) : Client := { c with watch := c.watch.addAddress a }

def watchAddresses (c : Client) (l : List Address) : Client := l.foldl watchAddress c

/-- Reads an address of the client's network and watches it. -/
def watchAddressText (c : Client) (text : String) : Except Error (Client × Address) :=
  match Address.ofTextOn c.network text.toList with
  | .ok a => .ok (c.watchAddress a, a)
  | .error fault => .error (.invalidAddress (text ++ ": " ++ fault.message))

end Client

end ChainFeed
