import ChainFeed.Metrics.Basic

/-!
# The text of the metrics

Every family has a line of help, a line with its type and a line per value. Families stand in the
order of their names, and the values of a labelled family in the order of their labels. A labelled
family without a value is left out.
-/

namespace ChainFeed.Metrics

inductive Kind where
  | counter
  | gauge

def Kind.name : Kind → String
  | counter => "counter"
  | gauge => "gauge"

structure Family where
  name : String
  help : String
  kind : Kind
  /-- Each value behind its labels. -/
  values : List (String × Nat)

def labelled (label value : String) : String :=
  let escaped := value.toList.flatMap fun c =>
    if c = '\\' then ['\\', '\\'] else if c = '"' then ['\\', '"']
    else if c = '\n' then ['\\', 'n'] else [c]
  "\x7b" ++ label ++ "=\"" ++ String.ofList escaped ++ "\"\x7d"

def families (m : Metrics) : List Family :=
  [⟨"cc_block_poller_blocks_total", "Blocks fetched from the backend", .counter,
      [("", m.blocksPolled)]⟩,
    ⟨"cc_clients_registered", "Rescan clients currently registered", .gauge,
      [("", m.clientsRegistered)]⟩,
    ⟨"cc_dispatch_block_deliveries_total", "Blocks handed to rescan clients", .counter,
      [("", m.blockDeliveries)]⟩,
    ⟨"cc_dispatch_dropped_deliveries_total", "Deliveries dropped for lagging clients", .counter,
      [("", m.droppedDeliveries)]⟩,
    ⟨"cc_dispatch_tx_deliveries_total", "Mempool transactions handed to rescan clients", .counter,
      [("", m.transactionDeliveries)]⟩,
    ⟨"cc_mempool_tracked_transactions",
      "Transaction ids in the connection-wide mempool tracker", .gauge,
      [("", m.mempoolTracked)]⟩,
    ⟨"cc_rpc_failures_total", "Failed backend RPC calls", .counter,
      (m.failures.mergeSort fun a b => decide (a.1 ≤ b.1)).map fun (method, n) =>
        (labelled "method" method, n)⟩,
    ⟨"cc_tx_poller_transactions_total", "Mempool transactions fetched from the backend", .counter,
      [("", m.transactionsPolled)]⟩,
    ⟨"cc_watermark_height", "Height of the last block fanned out to clients", .gauge,
      [("", m.watermarkHeight)]⟩]

def Family.lines (f : Family) : List String :=
  if f.values.isEmpty then []
  else
    ("# HELP " ++ f.name ++ " " ++ f.help) :: ("# TYPE " ++ f.name ++ " " ++ f.kind.name) ::
      f.values.map fun (labels, n) => f.name ++ labels ++ " " ++ toString n

def lines (m : Metrics) : List String := m.families.flatMap Family.lines

end ChainFeed.Metrics
