import ChainFeed.Hub.Basic

/-!
# Fan-out

An event goes to every registered client that it concerns. A client whose inbox is full loses it. A
block moves the watermark after it has been handed out.
-/

namespace ChainFeed

namespace Client

/-- What became of one delivery. -/
inductive Reception where
  | delivered (after : Client)
  | dropped
  | skipped

def reception (c : Client) (e : Event) : Reception :=
  match c.deliver e with
  | .ok after => .delivered after
  | .error (.clientLagging _) => .dropped
  | .error _ => .skipped

/-- Whether the fan-out of an event reaches the client. -/
def isAddressed (c : Client) (wants : Client → Bool) : Bool := c.registered && wants c

def takes (wants : Client → Bool) (e : Event) (c : Client) : Bool :=
  c.isAddressed wants && match c.reception e with | .delivered _ => true | _ => false

def misses (wants : Client → Bool) (e : Event) (c : Client) : Bool :=
  c.isAddressed wants && match c.reception e with | .dropped => true | _ => false

def isGone (wants : Client → Bool) (e : Event) (c : Client) : Bool :=
  c.isAddressed wants && match c.reception e with | .skipped => true | _ => false

def offer (wants : Client → Bool) (e : Event) (c : Client) : Client :=
  if c.isAddressed wants then
    match c.reception e with
    | .delivered after => after
    | _ => c
  else c

end Client

/-- How a fan-out went: clients that accepted the event, clients whose inbox was full, and clients
that are gone. -/
structure DeliveryReport where
  delivered : Nat
  dropped : Nat
  skipped : Nat
  deriving DecidableEq

namespace Hub

def reportOf (h : Hub) (wants : Client → Bool) (e : Event) : DeliveryReport where
  delivered := h.clients.countP (Client.takes wants e)
  dropped := h.clients.countP (Client.misses wants e)
  skipped := h.clients.countP (Client.isGone wants e)

def fanOut (h : Hub) (wants : Client → Bool) (e : Event) : Hub × DeliveryReport :=
  let report := h.reportOf wants e
  ({ h with
      clients := h.clients.map (Client.offer wants e)
      metrics :=
        { h.metrics with droppedDeliveries := h.metrics.droppedDeliveries + report.dropped } },
    report)

/-- A block goes to every client. -/
def dispatchBlock (h : Hub) (b : PlacedBlock) : Hub × DeliveryReport :=
  let (h, report) := h.fanOut (fun _ => true) (.blockConnected b)
  let metrics :=
    { h.metrics with blockDeliveries := h.metrics.blockDeliveries + report.delivered }
  ({ h with metrics }.advance b.stamp, report)

/-- An added transaction is tracked and goes to the clients that it concerns. -/
def dispatchTransaction (h : Hub) (t : Transaction) : Hub × DeliveryReport :=
  let (h, report) := (h.track t.txid).fanOut (fun c => c.wantsTransaction t) (.transactionAdded t)
  let metrics :=
    { h.metrics with
      transactionDeliveries := h.metrics.transactionDeliveries + report.delivered }
  ({ h with metrics }, report)

/-- A removal goes to every client, since the addition may still wait in an inbox. -/
def dispatchRemoval (h : Hub) (id : Txid) : Hub × DeliveryReport :=
  (h.untrack id).fanOut (fun _ => true) (.transactionRemoved id)

def dispatch (h : Hub) : Event → Hub × DeliveryReport
  | .blockConnected b => h.dispatchBlock b
  | .transactionAdded t => h.dispatchTransaction t
  | .transactionRemoved id => h.dispatchRemoval id

end Hub

end ChainFeed
