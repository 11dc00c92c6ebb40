import ChainFeed.Config.Backend

/-!
# Settings

Everything that a running connection is told: how to reach the node and what to watch.
-/

namespace ChainFeed

structure Settings where
  backend : BackendConfig
  certFile : Option String
  watchAddresses : List String
  notifyBlocks : Bool
  notifyAllMempool : Bool
  deriving DecidableEq

namespace Settings

def standard : Settings := ⟨.standard, none, [], false, false⟩

instance : Inhabited Settings := ⟨standard⟩

def fieldNames : List String :=
  ["backend", "rpc_cert_file", "watch_addresses", "notify_blocks", "notify_all_mempool"]

def toValue (s : Settings) : Value :=
  .record [("backend", s.backend.toValue),
    ("rpc_cert_file", match s.certFile with | none => .null | some path => .text path),
    ("watch_addresses", .ofStrings s.watchAddresses), ("notify_blocks", .bool s.notifyBlocks),
    ("notify_all_mempool", .bool s.notifyAllMempool)]

/-- Reads the record of a TOML document. Settings that are missing keep their defaults, and other
fields are passed over. -/
def ofValue? : Value → Option Settings
  | .record fields => do
    let d := standard
    if !Value.namedOnce fieldNames fields then none
    let backend ← Value.fieldOr fields "backend" d.backend (BackendConfig.ofValue? .toml)
    let certFile ← Value.fieldOr fields "rpc_cert_file" d.certFile (Value.asOption? Value.asText?)
    let watchAddresses ← Value.fieldOr fields "watch_addresses" d.watchAddresses
      (Value.asList? Value.asText?)
    let notifyBlocks ← Value.fieldOr fields "notify_blocks" d.notifyBlocks Value.asBool?
    let notifyAllMempool ←
      Value.fieldOr fields "notify_all_mempool" d.notifyAllMempool Value.asBool?
    return ⟨backend, certFile, watchAddresses, notifyBlocks, notifyAllMempool⟩
  | _ => none

end Settings

end ChainFeed
