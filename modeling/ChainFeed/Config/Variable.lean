import ChainFeed.Config.Settings
import ChainFeed.Data.Cut
import ChainFeed.Text.Decimal
import ChainFeed.Text.Flag
import ChainFeed.Text.Quoted

/-!
# Variables

Each variable of the environment overrides one setting. The variables are taken in a fixed order;
the first invalid value ends it, and what was set before stays set.
-/

namespace ChainFeed

abbrev Environment := String → Option String

inductive Variable where
  | network
  | host
  | user
  | pass
  | disableTls
  | rpcPolling
  | certFile
  | pollBlockMs
  | pollTxMs
  | watchAddresses
  | notifyBlocks
  deriving DecidableEq

namespace Variable

/-- The order in which the variables are taken. -/
def all : List Variable :=
  [network, host, user, pass, disableTls, rpcPolling, certFile, pollBlockMs, pollTxMs,
    watchAddresses, notifyBlocks]

def name : Variable → String
  | network => "CC_NETWORK"
  | host => "CC_RPC_HOST"
  | user => "CC_RPC_USER"
  | pass => "CC_RPC_PASS"
  | disableTls => "CC_DISABLE_TLS"
  | rpcPolling => "CC_RPC_POLLING"
  | certFile => "CC_RPC_CERT_FILE"
  | pollBlockMs => "CC_POLL_BLOCK_MS"
  | pollTxMs => "CC_POLL_TX_MS"
  | watchAddresses => "CC_WATCH_ADDRESSES"
  | notifyBlocks => "CC_NOTIFY_BLOCKS"

inductive Fault where
  | unknownNetwork
  | notFlag
  | notNumber (fault : Text.DecimalFault)
  deriving DecidableEq

def Fault.message (v : Variable) (text : String) : Fault → String
  | unknownNetwork =>
    v.name ++ "=" ++ text ++ ": failed to parse " ++ text ++ " as network"
  | notFlag =>
    v.name ++ ": expected a boolean, got " ++ Text.quoted (Text.flagWord text)
  | notNumber fault => v.name ++ "=" ++ text ++ ": " ++ fault.message

def readFlag (text : String) : Except Fault Bool :=
  match Text.flag? text with
  | some b => .ok b
  | none => .error .notFlag

def readNumber (text : String) : Except Fault UInt64 :=
  match Text.readUnsigned text with
  | .ok n => .ok n
  | .error fault => .error (.notNumber fault)

def readNetwork (text : String) : Except Fault Network :=
  match Network.ofName? text with
  | some n => .ok n
  | none => .error .unknownNetwork

/-- The items between commas, without the blanks around them and without empty ones. -/
def readItems (text : String) : List String :=
  (((cutAt (· == ',') text.toList).map Text.trimList).filter fun l => !l.isEmpty).map String.ofList

/-- Sets the setting of a variable. -/
def set (v : Variable) (text : String) (s : Settings) : Except Fault Settings :=
  match v with
  | network => (readNetwork text).map fun n => { s with backend.network := n }
  | host => .ok { s with backend.host := text }
  | user => .ok { s with backend.user := text }
  | pass => .ok { s with backend.pass := text }
  | disableTls => (readFlag text).map fun b => { s with backend.disableTls := b }
  | rpcPolling => (readFlag text).map fun b => { s with backend.rpcPolling := b }
  | certFile => .ok { s with certFile := some text }
  | pollBlockMs => (readNumber text).map fun n => { s with backend.pollBlockMs := n }
  | pollTxMs => (readNumber text).map fun n => { s with backend.pollTxMs := n }
  | watchAddresses => .ok { s with watchAddresses := readItems text }
  | notifyBlocks => (readFlag text).map fun b => { s with notifyBlocks := b }

theorem mem_all (v : Variable) : v ∈ all := by cases v <;> decide

end Variable

/-- An invalid value: its variable, its text and what is wrong. -/
structure InvalidVariable where
  which : Variable
  text : String
  fault : Variable.Fault
  deriving DecidableEq

def InvalidVariable.message (i : InvalidVariable) : String := i.fault.message i.which i.text

namespace Settings

/-- Applies the variables that are set, up to the first invalid one. -/
def override (env : Environment) : List Variable → Settings → Settings × Option InvalidVariable
  | [], s => (s, none)
  | v :: rest, s =>
    match env v.name with
    | none => override env rest s
    | some text =>
      match v.set text s with
      | .ok s => override env rest s
      | .error fault => (s, some ⟨v, text, fault⟩)

def applyOverrides (env : Environment) (s : Settings) : Settings × Option InvalidVariable :=
  override env Variable.all s

end Settings

end ChainFeed
