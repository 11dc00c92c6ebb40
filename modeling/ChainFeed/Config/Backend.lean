import ChainFeed.Error
import ChainFeed.Text.Blank
import ChainFeed.Value.Basic

/-!
# How a connection reaches its node

The settings of a connection. A document may give any of them, as a record or in order as a list,
and the others keep their defaults.
-/

namespace ChainFeed

structure BackendConfig where
  /-- The chain that the node must serve. -/
  network : Network
  host : String
  user : String
  pass : String
  disableTls : Bool
  /-- Certificates trusted besides those of the system, in PEM form. -/
  certificates : Option (List UInt8)
  /-- Whether the connection polls the node, or waits for events that are pushed. -/
  rpcPolling : Bool
  pollBlockMs : UInt64
  pollTxMs : UInt64
  /-- How many events wait for each client. -/
  clientBuffer : UInt64
  timeoutSecs : UInt64
  autoCatchUp : Bool
  deriving DecidableEq

namespace Network

/-- A network by its name. A document may also write the name as the only field of a record, over
nothing. -/
def ofValue? (format : Value.Format) : Value → Option Network
  | .text s => ofName? s
  | .record [(name, .null)] => if format = .json then ofName? name else none
  | .record [(name, .list [])] => if format = .toml then ofName? name else none
  | .record [(name, .record [])] => if format = .toml then ofName? name else none
  | _ => none

end Network

namespace BackendConfig

def standard : BackendConfig where
  network := .regtest
  host := "127.0.0.1:18443"
  user := ""
  pass := ""
  disableTls := true
  certificates := none
  rpcPolling := true
  pollBlockMs := 60000
  pollTxMs := 60000
  clientBuffer := 1000
  timeoutSecs := 30
  autoCatchUp := true

instance : Inhabited BackendConfig := ⟨standard⟩

/-- Short intervals and small buffers. -/
def forTesting : BackendConfig :=
  { standard with pollBlockMs := 50, pollTxMs := 50, clientBuffer := 64, timeoutSecs := 5 }

def timeoutMs (c : BackendConfig) : Nat := 1000 * c.timeoutSecs.toNat

def url (c : BackendConfig) : String :=
  (if c.disableTls then "http" else "https") ++ "://" ++ c.host

/-- Refuses settings that no connection can run with, the first of them in this order. -/
def validate (c : BackendConfig) : Except Error Unit :=
  if Text.isAllBlank c.host then .error (.invalidConfig "host is empty")
  else if c.pollBlockMs = 0 then
    .error (.invalidConfig "poll_block_interval_ms must be non-zero")
  else if c.pollTxMs = 0 then .error (.invalidConfig "poll_tx_interval_ms must be non-zero")
  else if c.clientBuffer = 0 then .error (.invalidConfig "client_buffer_size must be non-zero")
  else if c.timeoutSecs = 0 then .error (.invalidConfig "rpc_timeout_secs must be non-zero")
  else .ok ()

/-- The settings in the order in which a list gives them. -/
def fieldNames : List String :=
  ["network", "host", "user", "pass", "disable_tls", "certificates", "rpc_polling",
    "poll_block_interval_ms", "poll_tx_interval_ms", "client_buffer_size", "rpc_timeout_secs",
    "auto_catch_up"]

def bytesValue : Option (List UInt8) → Value
  | none => .null
  | some bytes => .list (bytes.map fun b => .int b.toNat)

def toFields (c : BackendConfig) : List (String × Value) :=
  [("network", .text c.network.name), ("host", .text c.host), ("user", .text c.user),
    ("pass", .text c.pass), ("disable_tls", .bool c.disableTls),
    ("certificates", bytesValue c.certificates), ("rpc_polling", .bool c.rpcPolling),
    ("poll_block_interval_ms", .int c.pollBlockMs.toNat),
    ("poll_tx_interval_ms", .int c.pollTxMs.toNat),
    ("client_buffer_size", .int c.clientBuffer.toNat),
    ("rpc_timeout_secs", .int c.timeoutSecs.toNat), ("auto_catch_up", .bool c.autoCatchUp)]

def toValue (c : BackendConfig) : Value := .record c.toFields

/-- Reads a record. A setting that stands twice is refused, and other fields are passed over. -/
def ofFields? (format : Value.Format) (fields : List (String × Value)) :
    Option BackendConfig := do
  let d := standard
  if !Value.namedOnce fieldNames fields then none
  let network ← Value.fieldOr fields "network" d.network (Network.ofValue? format)
  let host ← Value.fieldOr fields "host" d.host Value.asText?
  let user ← Value.fieldOr fields "user" d.user Value.asText?
  let pass ← Value.fieldOr fields "pass" d.pass Value.asText?
  let disableTls ← Value.fieldOr fields "disable_tls" d.disableTls Value.asBool?
  let certificates ← Value.fieldOr fields "certificates" d.certificates
    (Value.asOption? (Value.asList? Value.asUInt8?))
  let rpcPolling ← Value.fieldOr fields "rpc_polling" d.rpcPolling Value.asBool?
  let pollBlockMs ← Value.fieldOr fields "poll_block_interval_ms" d.pollBlockMs Value.asUInt64?
  let pollTxMs ← Value.fieldOr fields "poll_tx_interval_ms" d.pollTxMs Value.asUInt64?
  let clientBuffer ← Value.fieldOr fields "client_buffer_size" d.clientBuffer Value.asUInt64?
  let timeoutSecs ← Value.fieldOr fields "rpc_timeout_secs" d.timeoutSecs Value.asUInt64?
  let autoCatchUp ← Value.fieldOr fields "auto_catch_up" d.autoCatchUp Value.asBool?
  return { network, host, user, pass, disableTls, certificates, rpcPolling, pollBlockMs,
           pollTxMs, clientBuffer, timeoutSecs, autoCatchUp }

/-- Reads a record, or a list that gives the first settings in order. JSON refuses a list that is
too long, and in TOML a date is a record of nothing known. -/
def ofValue? (format : Value.Format) : Value → Option BackendConfig
  | .record fields => ofFields? format fields
  | .list items =>
    if format = .toml || items.length ≤ fieldNames.length then
      ofFields? format (fieldNames.zip items)
    else none
  | .instant _ => some standard
  | _ => none

end BackendConfig

namespace ClientId

def ofValue? (v : Value) : Option ClientId := v.asUInt64?.map ClientId.mk

def toValue (id : ClientId) : Value := .int id.value.toNat

end ClientId

namespace Stamp

def toValue (s : Stamp) : Value :=
  .record [("height", .int s.height.toNat), ("hash", .text s.hash.render)]

def digestOfValue? (v : Value) : Option Digest := v.asText?.bind Digest.ofString?

/-- Both fields have to be there, in a record or in order in a list. -/
def ofValue? : Value → Option Stamp
  | .record fields => do
    if !Value.namedOnce ["height", "hash"] fields then none
    let height ← Value.field? fields "height" Value.asUInt32?
    let hash ← Value.field? fields "hash" digestOfValue?
    return ⟨height, hash⟩
  | .list [height, hash] => do
    return ⟨← height.asUInt32?, ← digestOfValue? hash⟩
  | _ => none

end Stamp

end ChainFeed
