import ChainFeed.Proofs.Config.Layers
import ChainFeed.Proofs.Json.RoundTrip

/-!
# Records with some of the fields

A record that holds some of the fields of a backend, in any order and among fields of other names,
stands for the standard settings with these fields replaced. A number out of range or with a
fraction, and a network of no known name, stand for nothing.
-/

namespace ChainFeed

namespace Setting

/-- What is written of the setting in a document. -/
def write : (k : Setting) → k.Content → Value
  | network, n => .text n.name
  | host, a | user, a | pass, a => .text a
  | disableTls, b | rpcPolling, b | autoCatchUp, b | notifyBlocks, b | notifyAllMempool, b =>
    .bool b
  | certificates, bytes => BackendConfig.bytesValue bytes
  | pollBlockMs, n | pollTxMs, n | clientBuffer, n | timeoutSecs, n => .int n.toNat
  | certFile, none => .null
  | certFile, some path => .text path
  | watchAddresses, l => .ofStrings l

theorem asOption?_bytesValue (bytes : Option (List UInt8)) :
    Value.asOption? (Value.asList? Value.asUInt8?) (BackendConfig.bytesValue bytes) =
      some bytes := by
  cases bytes with
  | none => rfl
  | some bytes =>
    have hbytes := Outcome.mapM_map_of_inverse Value.asUInt8?_int bytes
    simp only [BackendConfig.bytesValue, Value.asOption?, Value.asList?, hbytes, Option.map_some]

theorem read_write (format : Value.Format) (k : Setting) (a : k.Content) :
    k.read format (k.write a) = some a := by
  cases k with
  | network => exact Network.ofName?_name a
  | pollBlockMs | pollTxMs | clientBuffer | timeoutSecs => exact Value.asUInt64?_int a
  | certificates => exact asOption?_bytesValue a
  | certFile => cases a <;> rfl
  | watchAddresses =>
    exact Outcome.mapM_map_of_inverse (f := Value.asText?) (g := Value.text) (fun _ => rfl) a
  | _ => rfl

theorem isJson_bytesValue (bytes : Option (List UInt8)) :
    Json.IsJson (BackendConfig.bytesValue bytes) := by
  cases bytes with
  | none => exact .null
  | some bytes =>
    refine .list fun v hv => ?_
    obtain ⟨b, -, rfl⟩ := List.mem_map.1 hv
    exact .int _

theorem isJson_write (k : Setting) (a : k.Content) : Json.IsJson (k.write a) := by
  cases k with
  | network | host | user | pass => exact .text _
  | disableTls | rpcPolling | autoCatchUp | notifyBlocks | notifyAllMempool => exact .bool _
  | pollBlockMs | pollTxMs | clientBuffer | timeoutSecs => exact .int _
  | certificates => exact isJson_bytesValue a
  | certFile =>
    cases a with
    | none => exact .null
    | some path => exact .text path
  | watchAddresses =>
    refine .list fun v hv => ?_
    obtain ⟨s, -, rfl⟩ := List.mem_map.1 hv
    exact .text s

def ofBackend : List Setting :=
  [network, host, user, pass, disableTls, certificates, rpcPolling, pollBlockMs, pollTxMs,
    clientBuffer, timeoutSecs, autoCatchUp]

theorem mem_ofBackend {k : Setting} : k ∈ ofBackend ↔ k.isOfBackend = true := by
  cases k <;> decide

theorem field_mem_fieldNames {k : Setting} (h : k.isOfBackend = true) :
    k.field ∈ BackendConfig.fieldNames :=
  List.mem_map_of_mem (f := field) (mem_ofBackend.2 h)

end Setting

namespace Value

section
variable {names : List String} {fields : List (String × Value)} {name : String} {v : Value}

theorem namedOnce_cons {f : String × Value} : namedOnce names (f :: fields) = true ↔
    (f.1 ∈ names → ∀ g ∈ fields, g.1 ≠ f.1) ∧ namedOnce names fields = true := by
  by_cases h : f.1 ∈ names
  · simp only [namedOnce, List.map_cons, decide_eq_true_eq, h, List.filter_cons_of_pos,
      List.nodup_cons, List.mem_filter, List.mem_map, and_true, forall_const]
    refine and_congr_left' ⟨fun hnone g hg heq => hnone ⟨g, hg, heq⟩, ?_⟩
    rintro hall ⟨g, hg, heq⟩
    exact hall g hg heq
  · simp [namedOnce, h]

theorem lookup_of_namedOnce (h : namedOnce names fields = true) (hname : name ∈ names)
    (hv : (name, v) ∈ fields) : fields.lookup name = some v := by
  induction fields with
  | nil => cases hv
  | cons f fields ih =>
    obtain ⟨honce, hrest⟩ := namedOnce_cons.1 h
    obtain rfl | hv := List.mem_cons.1 hv
    · exact List.lookup_cons_self
    · have hne : (name == f.1) = false :=
        beq_eq_false_iff_ne.2 fun heq => honce (heq ▸ hname) _ hv heq
      rw [List.lookup_cons, hne]
      exact ih hrest hv

end

/-- No whole number from zero up to but not including the bound. -/
inductive OutOfRange (bound : Nat) : Value → Prop
  | negative {n : Int} (h : n < 0) : OutOfRange bound (.int n)
  | large {n : Int} (h : bound ≤ n) : OutOfRange bound (.int n)
  | float (text : String) : OutOfRange bound (.float text)

theorem OutOfRange.asNat? {bound : Nat} {v : Value} (h : OutOfRange bound v) :
    v.asNat? bound = none := by
  cases h with
  | negative h => exact if_neg fun hn => by omega
  | large h => exact if_neg fun hn => by omega
  | float text => rfl

end Value

namespace BackendConfig

def inStandard (c : BackendConfig) : Settings := { Settings.standard with backend := c }

theorem toFields_eq (c : BackendConfig) : c.toFields =
    Setting.ofBackend.map fun k => (k.field, k.write (k.get c.inStandard)) := rfl

theorem isJson_toFields (c : BackendConfig) : ∀ f ∈ c.toFields, Json.IsJson f.2 := by
  intro f hf
  rw [toFields_eq] at hf
  obtain ⟨k, -, rfl⟩ := List.mem_map.1 hf
  exact k.isJson_write _

theorem nodup_fieldNames : fieldNames.Nodup := by decide

/-- The settings whose fields are kept, and the standard ones for the others. -/
def overlay (kept : String → Bool) (c : BackendConfig) : BackendConfig where
  network := if kept "network" then c.network else standard.network
  host := if kept "host" then c.host else standard.host
  user := if kept "user" then c.user else standard.user
  pass := if kept "pass" then c.pass else standard.pass
  disableTls := if kept "disable_tls" then c.disableTls else standard.disableTls
  certificates := if kept "certificates" then c.certificates else standard.certificates
  rpcPolling := if kept "rpc_polling" then c.rpcPolling else standard.rpcPolling
  pollBlockMs := if kept "poll_block_interval_ms" then c.pollBlockMs else standard.pollBlockMs
  pollTxMs := if kept "poll_tx_interval_ms" then c.pollTxMs else standard.pollTxMs
  clientBuffer := if kept "client_buffer_size" then c.clientBuffer else standard.clientBuffer
  timeoutSecs := if kept "rpc_timeout_secs" then c.timeoutSecs else standard.timeoutSecs
  autoCatchUp := if kept "auto_catch_up" then c.autoCatchUp else standard.autoCatchUp

theorem get_overlay (kept : String → Bool) (c : BackendConfig) {k : Setting}
    (hk : k.isOfBackend = true) : k.get (c.overlay kept).inStandard =
      if kept k.field then k.get c.inStandard else k.get .standard := by
  cases k <;> first | rfl | cases hk

theorem overlay_of_all {kept : String → Bool} (h : ∀ name ∈ fieldNames, kept name = true)
    (c : BackendConfig) : c.overlay kept = c := by
  have hget (k : Setting) : k.get (c.overlay kept).inStandard = k.get c.inStandard := by
    cases hk : k.isOfBackend with
    | true => rw [get_overlay kept c hk, if_pos (h _ (Setting.field_mem_fieldNames hk))]
    | false => cases k <;> first | rfl | cases hk
  exact congrArg Settings.backend (Setting.ext_get hget)

section part
variable {c : BackendConfig} {kept : String → Bool} {others fields : List (String × Value)}

/-- No field of the backend is doubled by the choice or by what stands beside it. -/
theorem namedOnce_part (hothers : ∀ f ∈ others, f.1 ∉ fieldNames)
    (hfields : fields.Perm (c.toFields.filter (fun f => kept f.1) ++ others)) :
    Value.namedOnce fieldNames fields = true := by
  have hperm := (hfields.map Prod.fst).filter (· ∈ fieldNames)
  have hnone : (others.map Prod.fst).filter (· ∈ fieldNames) = [] := by
    simpa [List.filter_eq_nil_iff] using hothers
  have hsublist : ((c.toFields.filter fun f => kept f.1).map Prod.fst).Sublist fieldNames :=
    List.filter_sublist.map Prod.fst
  rw [Value.namedOnce, decide_eq_true_eq, hperm.nodup_iff, List.map_append, List.filter_append,
    hnone, List.append_nil]
  exact (nodup_fieldNames.sublist hsublist).filter _

theorem ofFields?_part (format : Value.Format) (hothers : ∀ f ∈ others, f.1 ∉ fieldNames)
    (hfields : fields.Perm (c.toFields.filter (fun f => kept f.1) ++ others)) :
    ofFields? format fields = some (c.overlay kept) := by
  have honce := namedOnce_part hothers hfields
  refine (ofFields?_eq_some_iff (s := (c.overlay kept).inStandard)).2 ⟨honce, fun k hk => ?_⟩
  have hname := Setting.field_mem_fieldNames hk
  rw [get_overlay kept c hk, Setting.IsGiven]
  cases hkept : kept k.field with
  | true =>
    have hmem : (k.field, k.write (k.get c.inStandard)) ∈ c.toFields := by
      rw [toFields_eq]
      exact List.mem_map_of_mem (Setting.mem_ofBackend.2 hk)
    have hgiven : (k.field, k.write (k.get c.inStandard)) ∈ fields :=
      hfields.mem_iff.2 (List.mem_append_left _ (List.mem_filter.2 ⟨hmem, hkept⟩))
    rw [Value.lookup_of_namedOnce honce hname hgiven]
    exact Setting.read_write format k _
  | false =>
    have hmissing : fields.lookup k.field = none := by
      refine List.lookup_eq_none_iff.2 fun f hf => bne_iff_ne.2 fun heq => ?_
      obtain hf | hf := List.mem_append.1 (hfields.mem_iff.1 hf)
      · rw [heq, (List.mem_filter.1 hf).2] at hkept
        cases hkept
      · exact hothers f hf (heq ▸ hname)
    rw [hmissing]
    rfl

end part

/-- Fields of integers. -/
def integerNames : List String :=
  ["poll_block_interval_ms", "poll_tx_interval_ms", "client_buffer_size", "rpc_timeout_secs"]

/-- What a field must not hold: a number that is none of 64 bits, a certificate with a number that
is no byte, and a network that has no name. -/
inductive Misfit : String → Value → Prop
  | integer {name : String} {v : Value} (hname : name ∈ integerNames)
      (hv : v.OutOfRange UInt64.size) : Misfit name v
  | byte {items : List Value} {v : Value} (hmem : v ∈ items) (hv : v.OutOfRange UInt8.size) :
      Misfit "certificates" (.list items)
  | network {s : String} (hs : ∀ n : Network, n.name ≠ s) : Misfit "network" (.text s)

theorem Misfit.read_eq_none {name : String} {v : Value} (h : Misfit name v) :
    ∃ k : Setting, k.isOfBackend = true ∧ k.field = name ∧ k.read .json v = none := by
  cases h with
  | integer hname hv =>
    have hread : v.asUInt64? = none := by rw [Value.asUInt64?, hv.asNat?]; rfl
    simp only [integerNames, List.mem_cons, List.not_mem_nil, or_false] at hname
    obtain rfl | rfl | rfl | rfl := hname
    · exact ⟨.pollBlockMs, rfl, rfl, hread⟩
    · exact ⟨.pollTxMs, rfl, rfl, hread⟩
    · exact ⟨.clientBuffer, rfl, rfl, hread⟩
    · exact ⟨.timeoutSecs, rfl, rfl, hread⟩
  | @byte items v hmem hv =>
    have hread : items.mapM Value.asUInt8? = none := by
      cases hitems : items.mapM Value.asUInt8? with
      | none => rfl
      | some bytes =>
        obtain ⟨b, hb⟩ := Outcome.exists_of_mapM hitems v hmem
        rw [Value.asUInt8?, hv.asNat?] at hb
        cases hb
    refine ⟨.certificates, rfl, rfl, ?_⟩
    simp only [Setting.read, Value.asOption?, Value.asList?, hread, Option.map_none]
  | @network s hs =>
    refine ⟨.network, rfl, rfl, ?_⟩
    cases hname : Network.ofName? s with
    | none => exact hname
    | some n => exact absurd (Network.name_of_ofName? hname) (hs n)

theorem ofFields?_of_misfit {fields : List (String × Value)} {name : String} {v : Value}
    (hv : (name, v) ∈ fields) (h : Misfit name v) : ofFields? .json fields = none := by
  obtain ⟨k, hk, rfl, hread⟩ := h.read_eq_none
  refine Option.eq_none_iff_forall_ne_some.2 fun d hd => ?_
  obtain ⟨honce, hgiven⟩ := (ofFields?_eq_some_iff (s := d.inStandard)).1 hd
  have hk' := hgiven k hk
  rw [Setting.IsGiven, Value.lookup_of_namedOnce honce (Setting.field_mem_fieldNames hk) hv] at hk'
  cases hread.symm.trans hk'

/-- Reads the text of a record in JSON. -/
def ofJson? (text : String) : Option BackendConfig := (Json.read? text).bind (ofValue? .json)

theorem ofJson?_of_read {text : String} {fields : List (String × Value)}
    (h : Json.read? text = some (.record fields)) : ofJson? text = ofFields? .json fields := by
  rw [ofJson?, h]
  rfl

theorem ofJson?_write {fields : List (String × Value)} (h : ∀ f ∈ fields, Json.IsJson f.2) :
    ofJson? (Json.write (.record fields)) = ofFields? .json fields :=
  ofJson?_of_read (Json.read?_write (.record h))

/-- A record of some fields that are written of a backend, in any order and with any fields of other
names, is read as the standard backend with these fields replaced, and so is its text; with all
fields this is the backend itself. A record in which a field of an integer, a byte or a network
holds what it must not is refused, and with it every text of it. -/
theorem part_of_a_backend_is_read_back (c : BackendConfig) (kept : String → Bool) :
    (∀ others fields, (∀ f ∈ others, f.1 ∉ fieldNames) →
      fields.Perm (c.toFields.filter (fun f => kept f.1) ++ others) →
      ofValue? .json (.record fields) = some (c.overlay kept) ∧
      ((∀ f ∈ others, Json.IsJson f.2) →
        ofJson? (Json.write (.record fields)) = some (c.overlay kept)) ∧
      ∀ text, Json.read? text = some (.record fields) → ofJson? text = some (c.overlay kept)) ∧
    ((∀ name ∈ fieldNames, kept name = true) → c.overlay kept = c) ∧
    ∀ fields name v, (name, v) ∈ fields → Misfit name v →
      ofValue? .json (.record fields) = none ∧
      ∀ text, Json.read? text = some (.record fields) → ofJson? text = none := by
  refine ⟨fun others fields hothers hfields => ?_, fun hall => overlay_of_all hall c,
    fun fields name v hv hmisfit => ?_⟩
  · have hread := ofFields?_part .json hothers hfields
    refine ⟨hread, fun hjson => ?_, fun text htext => (ofJson?_of_read htext).trans hread⟩
    refine (ofJson?_write fun f hf => ?_).trans hread
    obtain hf | hf := List.mem_append.1 (hfields.mem_iff.1 hf)
    · exact c.isJson_toFields f (List.mem_filter.1 hf).1
    · exact hjson f hf
  · have hnone := ofFields?_of_misfit hv hmisfit
    exact ⟨hnone, fun text htext => (ofJson?_of_read htext).trans hnone⟩

def sampleBackend : BackendConfig :=
  { standard with
    network := .signet, certificates := some [0, 255], pollBlockMs := 18446744073709551615 }

/-- Two fields of the sample with another one between them, the later field first. -/
def sampleFields : List (String × Value) :=
  [("poll_block_interval_ms", .int 18446744073709551615), ("extra", .float "1.5"),
    ("certificates", .list [.int 0, .int 255])]

theorem two_fields_are_read_back :
    ofValue? .json (.record sampleFields) = some { sampleBackend with network := .regtest } ∧
      ofJson? (Json.write (.record sampleFields)) =
        some { sampleBackend with network := .regtest } ∧
      ofJson? (Json.write (.record sampleBackend.toFields)) = some sampleBackend ∧
      ofValue? .json (.record (("client_buffer_size", .float "1e3") :: sampleFields)) = none := by
  let two : String → Bool := fun name => name ∈ ["poll_block_interval_ms", "certificates"]
  have hothers : ∀ f ∈ [("extra", Value.float "1.5")], f.1 ∉ fieldNames := by
    intro f hf
    rw [List.mem_singleton.1 hf]
    decide
  have hjson : ∀ f ∈ [("extra", Value.float "1.5")], Json.IsJson f.2 := by
    intro f hf
    rw [List.mem_singleton.1 hf]
    refine .float ⟨false, ['1'], ['.', '5'], [], ⟨by simp, by simp, by simp⟩, ?_, .inl rfl,
      .inl (by simp), rfl⟩
    exact .inr ⟨['5'], rfl, by simp, by simp⟩
  have hfields : sampleFields.Perm
      (sampleBackend.toFields.filter (fun f => two f.1) ++ [("extra", .float "1.5")]) :=
    (@List.perm_append_comm _ (sampleFields.take 2) (sampleFields.drop 2)).trans (.of_eq rfl)
  obtain ⟨hpart, -, hmisfit⟩ := part_of_a_backend_is_read_back sampleBackend two
  obtain ⟨hvalue, htext, -⟩ := hpart _ _ hothers hfields
  obtain ⟨hwhole, hall, -⟩ := part_of_a_backend_is_read_back sampleBackend fun _ => true
  have hsame : sampleBackend.toFields.Perm (sampleBackend.toFields.filter (fun _ => true) ++ []) :=
    .of_eq (by rw [List.append_nil, List.filter_eq_self.2 fun _ _ => rfl])
  have hfull := (hwhole [] sampleBackend.toFields (by simp) hsame).2.1 (by simp)
  refine ⟨hvalue, htext hjson, ?_, ?_⟩
  · rwa [hall fun _ _ => rfl] at hfull
  · exact (hmisfit _ "client_buffer_size" _ List.mem_cons_self
      (.integer (by decide) (.float "1e3"))).1

end BackendConfig

end ChainFeed
