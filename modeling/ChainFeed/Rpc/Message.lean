import ChainFeed.Config.Backend
import ChainFeed.Json.Reader
import ChainFeed.Json.Writer
import ChainFeed.Text.Lossy
import ChainFeed.Text.Quoted

/-!
# Remote calls

A call is a JSON object with a number, a method and parameters. Its answer is a JSON object that
holds a result or an error, and it is read against the shape that the result must have: a result of
another shape spoils the answer even beside an error.
-/

namespace ChainFeed.Rpc

def callText (id : UInt64) (method : String) (params : List Value) : String :=
  Json.write (.record [("jsonrpc", .text "1.0"), ("id", .int id.toNat), ("method", .text method),
    ("params", .list params)])

structure RemoteError where
  code : Int
  message : String
  deriving DecidableEq

structure Envelope (α : Type) where
  result : Option α
  error : Option RemoteError

def asInt64? : Value → Option Int
  | .int n => if -0x8000000000000000 ≤ n ∧ n < 0x8000000000000000 then some n else none
  | _ => none

/-- Reads a record of fields that have to be there, or a list of them in order. -/
def asFields? (names : List String) : Value → Option (List Value)
  | .record fields =>
    if Value.namedOnce names fields then names.mapM fun name => fields.lookup name else none
  | .list items => if items.length = names.length then some items else none
  | _ => none

def RemoteError.ofValue? (v : Value) : Option RemoteError := do
  match ← asFields? ["code", "message"] v with
  | [code, message] => return ⟨← asInt64? code, ← message.asText?⟩
  | _ => none

namespace Envelope

variable {α : Type}

/-- The fields may be missing, and other fields are passed over. -/
def ofValue? (read : Value → Option α) : Value → Option (Envelope α)
  | .record fields => do
    if !Value.namedOnce ["result", "error"] fields then none
    return ⟨← Value.fieldOr fields "result" none (Value.asOption? read),
      ← Value.fieldOr fields "error" none (Value.asOption? RemoteError.ofValue?)⟩
  | .list [result, error] =>
    return ⟨← Value.asOption? read result, ← Value.asOption? RemoteError.ofValue? error⟩
  | _ => none

end Envelope

/-- What an answer comes to: its result, or why there is none. -/
def readAnswer {α : Type} (read : Value → Option α) (body : String) : Except String α :=
  match (Json.read? body).bind (Envelope.ofValue? read) with
  | none => .error "bad response"
  | some ⟨_, some e⟩ => .error (e.message ++ " (code " ++ toString e.code ++ ")")
  | some ⟨none, none⟩ => .error "missing result"
  | some ⟨some a, none⟩ => .ok a

structure ChainInfo where
  chain : String
  blocks : Height
  best : BlockHash
  deriving DecidableEq

def digestOf? (v : Value) : Option Digest := v.asText?.bind Digest.ofString?

def ChainInfo.ofValue? (v : Value) : Option ChainInfo := do
  match ← asFields? ["chain", "blocks", "bestblockhash"] v with
  | [chain, blocks, best] => return ⟨← chain.asText?, ← blocks.asUInt32?, ← digestOf? best⟩
  | _ => none

/-- The name that a node has for a chain. -/
def networkOf? : String → Option Network
  | "main" => some .bitcoin
  | "test" => some .testnet
  | "signet" => some .signet
  | "regtest" => some .regtest
  | _ => none

def readNetwork (chain : String) : Except String Network :=
  match networkOf? chain with
  | some n => .ok n
  | none => .error ("unknown chain " ++ Text.quoted chain)

end ChainFeed.Rpc
