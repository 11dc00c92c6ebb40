import ChainFeed.Rpc.Remote

/-!
# Connecting to a remote node

A node is asked for its chain and then for its best block. It is accepted if the name that it gives
its chain is that of the configured network.
-/

namespace ChainFeed

/-- What a node calls the chain of a network. -/
def Network.chainName : Network → String
  | bitcoin => "main"
  | testnet => "test"
  | testnet4 => "testnet4"
  | signet => "signet"
  | regtest => "regtest"

def Value.asRecord? : Value → Option (List (String × Value))
  | record fields => some fields
  | _ => none

def Value.isNull : Value → Bool
  | null => true
  | _ => false

namespace Rpc

/-- The text is an answer that tells of a chain. Fields of other names stand in it as they like. -/
def ChainInfo.IsToldBy (info : ChainInfo) (text : String) : Prop :=
  ∃ answer ∈ (Json.read? text).bind Value.asRecord?,
    Value.namedOnce ["result", "error"] answer = true ∧
    (∀ error ∈ answer.lookup "error", error.isNull = true) ∧
    ∃ result ∈ (answer.lookup "result").bind Value.asRecord?,
      Value.namedOnce ["chain", "blocks", "bestblockhash"] result = true ∧
      (result.lookup "chain").bind Value.asText? = some info.chain ∧
      (result.lookup "blocks").bind Value.asUInt32? = some info.blocks ∧
      (result.lookup "bestblockhash").bind digestOf? = some info.best

instance (info : ChainInfo) (text : String) : Decidable (info.IsToldBy text) :=
  inferInstanceAs (Decidable (∃ _ ∈ _, _))

/-- The server tells of a chain whenever it is asked for one. -/
def Server.Tells (server : Server) (info : ChainInfo) : Prop :=
  ∀ n (request : Request), request.method = "getblockchaininfo" → ∃ status body,
    server n request = .answered status body ∧ status ≠ 401 ∧ status ≠ 403 ∧
      info.IsToldBy (Text.lossy body)

theorem eq_record_of_asRecord? {v : Value} {fields : List (String × Value)}
    (h : v.asRecord? = some fields) : v = .record fields := by
  cases v <;> simp_all [Value.asRecord?]

theorem eq_null_of_isNull {v : Value} (h : v.isNull = true) : v = .null := by
  cases v <;> simp_all [Value.isNull]

theorem ChainInfo.ofValue?_record {info : ChainInfo} {result : List (String × Value)}
    (honce : Value.namedOnce ["chain", "blocks", "bestblockhash"] result = true)
    (hchain : (result.lookup "chain").bind Value.asText? = some info.chain)
    (hblocks : (result.lookup "blocks").bind Value.asUInt32? = some info.blocks)
    (hbest : (result.lookup "bestblockhash").bind digestOf? = some info.best) :
    ChainInfo.ofValue? (.record result) = some info := by
  obtain ⟨chain, hchain, hname⟩ := Option.bind_eq_some_iff.1 hchain
  obtain ⟨blocks, hblocks, hheight⟩ := Option.bind_eq_some_iff.1 hblocks
  obtain ⟨best, hbest, hhash⟩ := Option.bind_eq_some_iff.1 hbest
  have hfields : asFields? ["chain", "blocks", "bestblockhash"] (.record result) =
      some [chain, blocks, best] := by
    simp [asFields?, honce, hchain, hblocks, hbest]
  rw [ChainInfo.ofValue?, hfields, Option.bind_eq_bind, Option.bind_some]
  dsimp only
  rw [hname, hheight, hhash]
  rfl

theorem readAnswer_of_isToldBy {info : ChainInfo} {text : String} (h : info.IsToldBy text) :
    readAnswer ChainInfo.ofValue? text = .ok info := by
  obtain ⟨answer, hanswer, honce, herror, result, hresult, honce', hchain, hblocks, hbest⟩ := h
  obtain ⟨v, hread, hv⟩ := Option.bind_eq_some_iff.1 hanswer
  obtain ⟨w, hlookup, hw⟩ := Option.bind_eq_some_iff.1 hresult
  obtain rfl := eq_record_of_asRecord? hv
  obtain rfl := eq_record_of_asRecord? hw
  have hvalue := ChainInfo.ofValue?_record honce' hchain hblocks hbest
  have henvelope : Envelope.ofValue? ChainInfo.ofValue? (.record answer) =
      some ⟨some info, none⟩ := by
    cases hnone : answer.lookup "error" with
    | none =>
      simp [Envelope.ofValue?, honce, Value.fieldOr, hlookup, hnone, Value.asOption?, hvalue]
    | some error =>
      obtain rfl := eq_null_of_isNull (herror error hnone)
      simp [Envelope.ofValue?, honce, Value.fieldOr, hlookup, hnone, Value.asOption?, hvalue]
  simp [readAnswer, hread, henvelope]

namespace Link

/-- The next request for the chain. -/
def chainRequest (l : Link) : Request :=
  ⟨l.remote.url, l.remote.authorization, "getblockchaininfo",
    callText l.nextId "getblockchaininfo" []⟩

def asked (l : Link) : Link :=
  { l with nextId := l.nextId + 1, sent := l.sent ++ [l.chainRequest] }

end Link

section
variable {l : Link} {info : ChainInfo}

theorem askChain_of_tells (hsendable : l.remote.fault? = none) (htells : l.server.Tells info) :
    askChain l = (.ok info, l.asked) := by
  obtain ⟨status, body, hreply, h401, h403, htold⟩ :=
    htells l.sent.length l.chainRequest rfl
  have hsend : Link.send "getblockchaininfo" [] l = (.ok (.answered status body), l.asked) := by
    rw [← hreply]
    simp only [Link.send, hsendable]
    rfl
  have hstatus : statusText? status = none := by
    rw [statusText?, if_neg h401, if_neg h403]
  have hread : readReply ChainInfo.ofValue? (.answered status body) = .ok info := by
    simp only [readReply, hstatus]
    exact readAnswer_of_isToldBy htold
  have hcall : askChain l = ((Except.ok (.answered status body) >>=
      readReply ChainInfo.ofValue?).mapError (.queryFailed "getblockchaininfo"), l.asked) := by
    simp only [askChain, call, bind, StateT.bind, hsend]
    rfl
  rw [hcall]
  simp only [bind, Except.bind, hread]
  rfl

theorem askNetwork_of_known {n : Network} (hsendable : l.remote.fault? = none)
    (htells : l.server.Tells info) (hchain : networkOf? info.chain = some n) :
    askNetwork l = (.ok n, l.asked) := by
  have hread : readNetwork info.chain = .ok n := by rw [readNetwork, hchain]
  simp only [askNetwork, bind, StateT.bind, askChain_of_tells hsendable htells, hread]
  rfl

theorem askNetwork_of_unknown (hsendable : l.remote.fault? = none)
    (htells : l.server.Tells info) (hchain : networkOf? info.chain = none) :
    askNetwork l = (.error (.queryFailed "getblockchaininfo"
      ("unknown chain " ++ Text.quoted info.chain)), l.asked) := by
  have hread : readNetwork info.chain =
      .error ("unknown chain " ++ Text.quoted info.chain) := by rw [readNetwork, hchain]
  simp only [askNetwork, bind, StateT.bind, askChain_of_tells hsendable htells, hread]
  rfl

theorem askBest_of_tells (hsendable : l.remote.fault? = none) (htells : l.server.Tells info) :
    askBest l = (.ok ⟨info.blocks, info.best⟩, l.asked) := by
  simp only [askBest, bind, StateT.bind, askChain_of_tells hsendable htells]
  rfl

end

theorem networkOf?_chainName (n : Network) :
    networkOf? n.chainName = if n = .testnet4 then none else some n := by
  cases n <;> rfl

theorem unknownChain_message : (Error.queryFailed "getblockchaininfo"
    ("unknown chain " ++ Text.quoted Network.testnet4.chainName)).message =
      "RPC query getblockchaininfo failed: unknown chain \"testnet4\"" := by
  decide +kernel

/-- The node of a configuration, as it is reached without certificates. -/
def remoteOf (config : BackendConfig) : Remote := ⟨config.url, config.user, config.pass⟩

/-- The call of this number, if it asks for the chain. -/
def chainRequestOf (config : BackendConfig) (id : UInt64) : Request :=
  ⟨config.url, (remoteOf config).authorization, "getblockchaininfo",
    callText id "getblockchaininfo" []⟩

section
variable {config : BackendConfig} {server : Server} {info : ChainInfo}

theorem connect_eq_handshake (hvalid : config.validate = .ok ()) (htls : config.disableTls = true) :
    connect config server =
      ((Connection.handshake config backend (Link.fresh (remoteOf config) server)).1,
        (Connection.handshake config backend (Link.fresh (remoteOf config) server)).2.sent) := by
  have hremote : Remote.ofConfig config = .ok (remoteOf config) := by
    simp [Remote.ofConfig, htls, remoteOf]
  simp only [connect, hvalid, hremote]
  rfl

theorem connect_of_served (hvalid : config.validate = .ok ()) (htls : config.disableTls = true)
    (hsendable : (remoteOf config).fault? = none) (htells : server.Tells info)
    (hchain : networkOf? info.chain = some config.network) :
    connect config server = (.ok (.opened config ⟨info.blocks, info.best⟩),
      [chainRequestOf config 1, chainRequestOf config 2]) := by
  have hnetwork :=
    askNetwork_of_known (l := .fresh (remoteOf config) server) hsendable htells hchain
  have hbest := askBest_of_tells (l := (Link.fresh (remoteOf config) server).asked) hsendable htells
  rw [connect_eq_handshake hvalid htls]
  simp only [Connection.handshake, hvalid, backend, bind, StateT.bind, hnetwork, ne_eq,
    not_true_eq_false, if_false, hbest]
  rfl

theorem connect_of_other_network {actual : Network} (hvalid : config.validate = .ok ())
    (htls : config.disableTls = true) (hsendable : (remoteOf config).fault? = none)
    (htells : server.Tells info) (hchain : networkOf? info.chain = some actual)
    (hother : actual ≠ config.network) :
    connect config server =
      (.error (.networkMismatch config.network actual), [chainRequestOf config 1]) := by
  have hnetwork :=
    askNetwork_of_known (l := .fresh (remoteOf config) server) hsendable htells hchain
  rw [connect_eq_handshake hvalid htls]
  simp only [Connection.handshake, hvalid, backend, bind, StateT.bind, hnetwork, ne_eq, hother,
    not_false_eq_true, if_true]
  rfl

theorem connect_of_unknown_chain (hvalid : config.validate = .ok ())
    (htls : config.disableTls = true) (hsendable : (remoteOf config).fault? = none)
    (htells : server.Tells info) (hchain : networkOf? info.chain = none) :
    connect config server = (.error (.unreachable (Error.queryFailed "getblockchaininfo"
      ("unknown chain " ++ Text.quoted info.chain)).message), [chainRequestOf config 1]) := by
  have hnetwork :=
    askNetwork_of_unknown (l := .fresh (remoteOf config) server) hsendable htells hchain
  rw [connect_eq_handshake hvalid htls]
  simp only [Connection.handshake, hvalid, backend, bind, StateT.bind, hnetwork]
  rfl

/-- A node of the configured network is accepted where it stands, and one of another network is
refused by name. Only the name of `testnet4` is not known. -/
theorem connect_to_node_of_network {n : Network} {height : Height} {hash : BlockHash}
    (hvalid : config.validate = .ok ()) (htls : config.disableTls = true)
    (hsendable : (remoteOf config).fault? = none)
    (htells : server.Tells ⟨n.chainName, height, hash⟩) :
    (n ≠ .testnet4 → n = config.network → ∃ c : Connection,
      connect config server = (.ok c, [chainRequestOf config 1, chainRequestOf config 2]) ∧
        c.hub.watermark = ⟨height, hash⟩ ∧ c.hub.clients = []) ∧
    (n ≠ .testnet4 → n ≠ config.network → connect config server =
      (.error (.networkMismatch config.network n), [chainRequestOf config 1])) ∧
    (n = .testnet4 → connect config server = (.error (.unreachable
      "RPC query getblockchaininfo failed: unknown chain \"testnet4\""),
      [chainRequestOf config 1])) := by
  have hname := networkOf?_chainName n
  refine ⟨fun hknown hsame => ?_, fun hknown hother => ?_, fun hunknown => ?_⟩
  · rw [if_neg hknown] at hname
    subst hsame
    exact ⟨_, connect_of_served hvalid htls hsendable htells hname, rfl, rfl⟩
  · rw [if_neg hknown] at hname
    exact connect_of_other_network hvalid htls hsendable htells hname hother
  · subst hunknown
    rw [connect_of_unknown_chain hvalid htls hsendable htells hname]
    exact congrArg (fun text => (Except.error (Error.unreachable text), _)) unknownChain_message

end

/-- A server that gives one answer to everything. -/
def Server.always (answer : Value) : Server := fun _ _ =>
  .answered 200 (Json.write answer).toUTF8.toList

/-- An answer that tells of a chain, and of more than is asked for. -/
def sampleAnswer (n : Network) : Value :=
  .record [("result", .record [("chain", .text n.chainName), ("blocks", .int 104),
    ("difficulty", .float "1.5"), ("bestblockhash", .text Digest.zero.render)]),
    ("error", .null), ("id", .int 1)]

theorem sampleAnswer_tells {n : Network} (h : n = .regtest ∨ n = .testnet4) :
    (Server.always (sampleAnswer n)).Tells ⟨n.chainName, 104, Digest.zero⟩ := by
  intro k request _
  refine ⟨200, _, rfl, by decide, by decide, ?_⟩
  obtain rfl | rfl := h <;> decide +kernel

theorem validate_standard (n : Network) :
    { BackendConfig.standard with network := n }.validate = .ok () := by
  have hhost : Text.isAllBlank "127.0.0.1:18443" = false := by decide +kernel
  simp [BackendConfig.validate, BackendConfig.standard, hhost]

theorem regtest_node_is_accepted_for_regtest_only :
    (∃ c : Connection, connect .standard (.always (sampleAnswer .regtest)) =
      (.ok c, [chainRequestOf .standard 1, chainRequestOf .standard 2]) ∧
        c.hub.watermark = ⟨104, Digest.zero⟩ ∧ c.hub.clients = []) ∧
    connect { BackendConfig.standard with network := .signet } (.always (sampleAnswer .regtest)) =
      (.error (.networkMismatch .signet .regtest),
        [chainRequestOf { BackendConfig.standard with network := .signet } 1]) := by
  have htells := sampleAnswer_tells (.inl rfl)
  exact ⟨(connect_to_node_of_network (validate_standard .regtest) rfl (by decide +kernel) htells).1
      (by decide) rfl,
    (connect_to_node_of_network (validate_standard .signet) rfl (by decide +kernel) htells).2.1
      (by decide) (by decide)⟩

theorem testnet4_node_is_refused_for_testnet4 :
    let config := { BackendConfig.standard with network := .testnet4 }
    config.validate = .ok () ∧ config.disableTls = true ∧ (remoteOf config).fault? = none ∧
      (Server.always (sampleAnswer .testnet4)).Tells
        ⟨config.network.chainName, 104, Digest.zero⟩ ∧
      connect config (.always (sampleAnswer .testnet4)) = (.error (.unreachable
        "RPC query getblockchaininfo failed: unknown chain \"testnet4\""),
        [chainRequestOf config 1]) := by
  intro config
  have hvalid := validate_standard .testnet4
  have hsendable : (remoteOf config).fault? = none := by decide +kernel
  have htells := sampleAnswer_tells (.inr rfl)
  refine ⟨hvalid, rfl, hsendable, htells, ?_⟩
  rw [connect_of_unknown_chain hvalid rfl hsendable htells rfl, unknownChain_message]

end Rpc

end ChainFeed
