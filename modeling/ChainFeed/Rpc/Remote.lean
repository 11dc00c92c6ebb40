import ChainFeed.Certificate.Anchor
import ChainFeed.Connection.Basic
import ChainFeed.Rpc.Message
import ChainFeed.Rpc.Raw
import ChainFeed.Url.Basic

/-!
# Remote nodes

A node is reached by requests, each of which carries one call. The calls of a node are numbered from
one, whatever becomes of them, in a word that begins again at zero when it is full. A query takes one
request, except that a block takes two: the first asks for its hash. There are no requests to an
address that is none.
-/

namespace ChainFeed.Rpc

structure Remote where
  url : String
  user : String
  pass : String
  deriving DecidableEq

structure Request where
  url : String
  /-- The value of the header that says who asks. -/
  authorization : String
  method : String
  body : String
  deriving DecidableEq

/-- What becomes of a request. -/
inductive Reply where
  | unanswered
  /-- The answer breaks off in its body. -/
  | brokenOff (status : Nat)
  | answered (status : Nat) (body : List UInt8)
  deriving DecidableEq

abbrev Server := Nat → Request → Reply

/-- A remote node and what has been sent to it. -/
structure Link where
  remote : Remote
  server : Server
  nextId : UInt64
  /-- The requests so far, the earliest first. -/
  sent : List Request

abbrev Exchange := StateM Link

namespace Remote

/-- Refuses certificates that cannot be used, if they are to be used. -/
def ofConfig (c : BackendConfig) : Except Error Remote :=
  if !c.disableTls && !(c.certificates.all Certificate.areUsable) then
    .error (.invalidConfig "http client: builder error")
  else .ok ⟨c.url, c.user, c.pass⟩

def authorization (r : Remote) : String :=
  "Basic " ++ String.ofList (Base64.encode (r.user ++ ":" ++ r.pass).toUTF8.toList)

/-- Why no request can be sent to a node. -/
def fault? (r : Remote) : Option String :=
  match Url.read? r.url.toList with
  | none => some "builder error"
  | some u => if u.isSendable then none else some ("builder error for url (" ++ u.render ++ ")")

end Remote

namespace Link

def fresh (remote : Remote) (server : Server) : Link := ⟨remote, server, 1, []⟩

def send (method : String) (params : List Value) : Exchange (Except String Reply) := fun l =>
  let next := { l with nextId := l.nextId + 1 }
  match l.remote.fault? with
  | some text => (.error text, next)
  | none =>
    let request : Request :=
      ⟨l.remote.url, l.remote.authorization, method, callText l.nextId method params⟩
    (.ok (l.server l.sent.length request), { next with sent := l.sent ++ [request] })

end Link

/-- Why a reply is refused before its body is looked at. -/
def statusText? (status : Nat) : Option String :=
  if status = 401 then some "HTTP 401 Unauthorized"
  else if status = 403 then some "HTTP 403 Forbidden"
  else none

def readReply {α : Type} (read : Value → Option α) : Reply → Except String α
  | .unanswered => .error "error sending request"
  | .brokenOff status =>
    .error ((statusText? status).getD "error decoding response body")
  | .answered status body =>
    match statusText? status with
    | some text => .error text
    | none => readAnswer read (Text.lossy body)

def call {α : Type} (method : String) (params : List Value) (read : Value → Option α) :
    Exchange (Except Error α) := do
  let reply ← Link.send method params
  return (reply >>= readReply read).mapError (.queryFailed method)

/-- Makes a call whose result is a value in raw form. -/
def callRaw {α : Type} (method : String) (params : List Value) (r : Consensus.Reader α) :
    Exchange (Except Error α) := do
  match ← call method params Value.asText? with
  | .error e => return .error e
  | .ok text =>
    return (readRaw r text).mapError fun fault => .queryFailed method fault.message

def askChain : Exchange (Except Error ChainInfo) := call "getblockchaininfo" [] ChainInfo.ofValue?

def askNetwork : Exchange (Except Error Network) := do
  match ← askChain with
  | .error e => return .error e
  | .ok info => return (readNetwork info.chain).mapError (.queryFailed "getblockchaininfo")

def askBest : Exchange (Except Error Stamp) := do
  return (← askChain).map fun info => ⟨info.blocks, info.best⟩

def askBlock (height : Height) : Exchange (Except Error Block) := do
  match ← call "getblockhash" [.int height.toNat] digestOf? with
  | .error e => return .error e
  | .ok hash => callRaw "getblock" [.text hash.render, .int 0] Block.reader

def askMempool : Exchange (Except Error (List Txid)) :=
  call "getrawmempool" [] (Value.asList? digestOf?)

def askTransaction (id : Txid) : Exchange (Except Error Transaction) :=
  callRaw "getrawtransaction" [.text id.render, .bool false] Transaction.reader

def backend : Backend Exchange where
  network := askNetwork
  best := askBest
  block := askBlock
  mempool := askMempool
  transaction := askTransaction

/-- Connects to the node that a configuration describes, and says what was sent to it. -/
def connect (config : BackendConfig) (server : Server) : Except Error Connection × List Request :=
  match config.validate with
  | .error e => (.error e, [])
  | .ok () =>
    match Remote.ofConfig config with
    | .error e => (.error e, [])
    | .ok remote =>
      let (result, link) := Connection.handshake config backend (Link.fresh remote server)
      (result, link.sent)

end ChainFeed.Rpc
