import Mathlib.Control.Monad.Basic
import ChainFeed.Config.Load
import ChainFeed.Data.Outcome
import ChainFeed.Proofs.Config.Override

/-!
# Settings in layers

Settings lie in layers: on the standard ones the document that the environment names, and on that
the variables that are set. The certificates are those of the file that is named for them in the
end. Settings are loaded exactly if every layer can be read and the outcome is valid, and they are
then determined setting by setting.
-/

namespace ChainFeed

namespace Setting

/-- Whether a document has the setting in its table for the backend. -/
def isOfBackend : Setting → Bool
  | certFile | watchAddresses | notifyBlocks | notifyAllMempool => false
  | _ => true

def field : Setting → String
  | network => "network"
  | host => "host"
  | user => "user"
  | pass => "pass"
  | disableTls => "disable_tls"
  | certificates => "certificates"
  | rpcPolling => "rpc_polling"
  | pollBlockMs => "poll_block_interval_ms"
  | pollTxMs => "poll_tx_interval_ms"
  | clientBuffer => "client_buffer_size"
  | timeoutSecs => "rpc_timeout_secs"
  | autoCatchUp => "auto_catch_up"
  | certFile => "rpc_cert_file"
  | watchAddresses => "watch_addresses"
  | notifyBlocks => "notify_blocks"
  | notifyAllMempool => "notify_all_mempool"

def read (format : Value.Format) : (k : Setting) → Value → Option k.Content
  | network, v => Network.ofValue? format v
  | host, v | user, v | pass, v => v.asText?
  | disableTls, v | rpcPolling, v | autoCatchUp, v | notifyBlocks, v | notifyAllMempool, v =>
    v.asBool?
  | certificates, v => Value.asOption? (Value.asList? Value.asUInt8?) v
  | pollBlockMs, v | pollTxMs, v | clientBuffer, v | timeoutSecs, v => v.asUInt64?
  | certFile, v => Value.asOption? Value.asText? v
  | watchAddresses, v => Value.asList? Value.asText? v

/-- The fields give the setting this value, or they do not give it and it is the standard one. -/
def IsGiven (k : Setting) (format : Value.Format) (fields : List (String × Value))
    (a : k.Content) : Prop :=
  match fields.lookup k.field with
  | none => a = k.get .standard
  | some v => k.read format v = some a

theorem fieldOr_eq_some_iff {k : Setting} {format : Value.Format} {fields : List (String × Value)}
    {a : k.Content} : Value.fieldOr fields k.field (k.get .standard) (k.read format) = some a ↔
      k.IsGiven format fields a := by
  unfold Value.fieldOr IsGiven
  cases fields.lookup k.field with
  | none => exact ⟨fun h => (Option.some.inj h).symm, fun h => h ▸ rfl⟩
  | some v => exact Iff.rfl

theorem IsGiven.unique {k : Setting} {format : Value.Format} {fields : List (String × Value)}
    {a b : k.Content} (ha : k.IsGiven format fields a) (hb : k.IsGiven format fields b) :
    a = b :=
  Option.some.inj ((fieldOr_eq_some_iff.2 ha).symm.trans (fieldOr_eq_some_iff.2 hb))

/-- The settings of the backend, as a record of them or in order as a list. -/
def backendFields : Value → List (String × Value)
  | .record fields => fields
  | .list items => BackendConfig.fieldNames.zip items
  | _ => []

/-- The part of a document that the setting is looked up in. -/
def tableIn (k : Setting) (doc : List (String × Value)) : List (String × Value) :=
  if k.isOfBackend then
    match doc.lookup "backend" with
    | none => []
    | some v => backendFields v
  else doc

/-- The document gives the setting this value, or does not give it and it is the standard one. -/
def IsFrom (k : Setting) (doc : List (String × Value)) (a : k.Content) : Prop :=
  k.IsGiven .toml (k.tableIn doc) a

end Setting

theorem BackendConfig.ofFields?_eq_some_iff {format : Value.Format}
    {fields : List (String × Value)} {s : Settings} :
    ofFields? format fields = some s.backend ↔ Value.namedOnce fieldNames fields = true ∧
      ∀ k : Setting, k.isOfBackend = true → k.IsGiven format fields (k.get s) := by
  simp only [← Setting.fieldOr_eq_some_iff]
  by_cases honce : Value.namedOnce fieldNames fields = true
  · simp only [ofFields?, honce, Bool.not_true, Bool.false_eq_true, if_false, Option.bind_eq_bind,
      Option.pure_def, Option.bind_eq_some_iff, Option.some.injEq]
    constructor
    · rintro ⟨network, hnetwork, host, hhost, user, huser, pass, hpass, disableTls, hdisableTls,
        certificates, hcertificates, rpcPolling, hrpcPolling, pollBlockMs, hpollBlockMs, pollTxMs,
        hpollTxMs, clientBuffer, hclientBuffer, timeoutSecs, htimeoutSecs, autoCatchUp,
        hautoCatchUp, hs⟩
      refine ⟨trivial, fun k hk => ?_⟩
      cases k with
      | certFile | watchAddresses | notifyBlocks | notifyAllMempool => cases hk
      | _ => simp only [Setting.get, ← hs]; assumption
    · rintro ⟨-, h⟩
      exact ⟨_, h .network rfl, _, h .host rfl, _, h .user rfl, _, h .pass rfl,
        _, h .disableTls rfl, _, h .certificates rfl, _, h .rpcPolling rfl,
        _, h .pollBlockMs rfl, _, h .pollTxMs rfl, _, h .clientBuffer rfl,
        _, h .timeoutSecs rfl, _, h .autoCatchUp rfl, rfl⟩
  · simp [ofFields?, honce]

theorem BackendConfig.ofFields?_backendFields {v : Value} {c : BackendConfig}
    (h : ofValue? .toml v = some c) : ofFields? .toml (Setting.backendFields v) = some c := by
  cases v with
  | record fields => exact h
  | list items => exact h
  | instant text =>
    obtain rfl : standard = c := Option.some.inj h
    rfl
  | _ => cases h

namespace Settings

/-- Each setting of a document that can be read is as the document gives it. -/
theorem isFrom_of_ofValue? {doc : List (String × Value)} {s : Settings}
    (h : ofValue? (.record doc) = some s) (k : Setting) : k.IsFrom doc (k.get s) := by
  by_cases honce : Value.namedOnce fieldNames doc = true
  · simp only [ofValue?, honce, Bool.not_true, Bool.false_eq_true, if_false, Option.bind_eq_bind,
      Option.pure_def, Option.bind_eq_some_iff, Option.some.injEq] at h
    obtain ⟨backend, hbackend, certFile, hcertFile, watchAddresses, hwatchAddresses, notifyBlocks,
      hnotifyBlocks, notifyAllMempool, hnotifyAllMempool, rfl⟩ := h
    cases hk : k.isOfBackend with
    | false =>
      rw [Setting.IsFrom, Setting.tableIn, hk, ← Setting.fieldOr_eq_some_iff]
      cases k with
      | certFile | watchAddresses | notifyBlocks | notifyAllMempool => assumption
      | _ => cases hk
    | true =>
      have htable : BackendConfig.ofFields? .toml (k.tableIn doc) = some backend := by
        rw [Setting.tableIn, hk]
        cases hv : doc.lookup "backend" with
        | none =>
          rw [Value.fieldOr, hv] at hbackend
          exact hbackend
        | some v =>
          rw [Value.fieldOr, hv] at hbackend
          exact BackendConfig.ofFields?_backendFields hbackend
      exact (BackendConfig.ofFields?_eq_some_iff.1 htable).2 k hk
  · simp [ofValue?, honce] at h

/-- The fields of the document that the environment names. If it names none, there are none. -/
def IsDocument (env : Environment) (files : Files) (doc : List (String × Value)) : Prop :=
  match env fileVariable with
  | none => doc = []
  | some path => ∃ text, files path >>= decodeText = .ok text ∧ Toml.read? text = some (.record doc)

/-- The settings hold what the variables say that are set, and otherwise what the document says. The
certificates may be others. -/
structure IsOverlaid (env : Environment) (doc : List (String × Value)) (s : Settings) : Prop where
  set : ∀ (v : Variable) (text : String), env v.name = some text →
    v.read text = .ok (v.setting.get s)
  unset : ∀ k : Setting, k ≠ .certificates →
    (∀ v : Variable, v.setting = k → env v.name = none) → k.IsFrom doc (k.get s)

/-- The settings hold what all layers come to: the certificates are the content of the file that is
named for them in the end, and without one those of the document. -/
structure IsMerged (env : Environment) (files : Files) (doc : List (String × Value))
    (s : Settings) : Prop extends s.IsOverlaid env doc where
  certificates : match s.certFile with
    | none => Setting.certificates.IsFrom doc s.backend.certificates
    | some path => ∃ bytes, files path = .ok bytes ∧ s.backend.certificates = some bytes

section
variable {env : Environment} {files : Files} {doc : List (String × Value)} {s t c : Settings}

theorem IsDocument.unique {doc' : List (String × Value)} (h : IsDocument env files doc)
    (h' : IsDocument env files doc') : doc = doc' := by
  unfold IsDocument at h h'
  cases hpath : env fileVariable with
  | none =>
    rw [hpath] at h h'
    rw [h, h']
  | some path =>
    rw [hpath] at h h'
    obtain ⟨text, htext, hdoc⟩ := h
    obtain ⟨text', htext', hdoc'⟩ := h'
    obtain rfl : text = text' := Except.ok.inj (htext.symm.trans htext')
    exact Value.record.inj (Option.some.inj (hdoc.symm.trans hdoc'))

theorem IsOverlaid.get_eq (hs : s.IsOverlaid env doc) (ht : t.IsOverlaid env doc) {k : Setting}
    (hk : k ≠ .certificates) : k.get s = k.get t := by
  by_cases hset : ∃ v : Variable, v.setting = k ∧ ∃ text, env v.name = some text
  · obtain ⟨v, rfl, text, htext⟩ := hset
    exact Except.ok.inj ((hs.set v text htext).symm.trans (ht.set v text htext))
  · have hunset (v : Variable) (hv : v.setting = k) : env v.name = none :=
      Option.eq_none_iff_forall_ne_some.2 fun text htext => hset ⟨v, hv, text, htext⟩
    exact (hs.unset k hk hunset).unique (ht.unset k hk hunset)

theorem IsOverlaid.congr (h : ∀ k : Setting, k ≠ .certificates → k.get t = k.get s)
    (hs : s.IsOverlaid env doc) : t.IsOverlaid env doc := by
  refine ⟨fun v text htext => ?_, fun k hk hunset => ?_⟩
  · rw [h v.setting v.setting_ne_certificates]
    exact hs.set v text htext
  · rw [h k hk]
    exact hs.unset k hk hunset

/-- The layers leave nothing open. -/
theorem IsMerged.unique (hs : s.IsMerged env files doc) (ht : t.IsMerged env files doc) :
    s = t := by
  have hothers {k : Setting} (hk : k ≠ .certificates) : k.get s = k.get t :=
    hs.toIsOverlaid.get_eq ht.toIsOverlaid hk
  have hfile : s.certFile = t.certFile := hothers (k := .certFile) (by decide)
  refine Setting.ext_get fun k => ?_
  by_cases hk : k = .certificates
  · subst hk
    have hcs := hs.certificates
    have hct := ht.certificates
    rw [← hfile] at hct
    cases hpath : s.certFile with
    | none =>
      rw [hpath] at hcs hct
      exact hcs.unique hct
    | some path =>
      rw [hpath] at hcs hct
      obtain ⟨bytes, hbytes, hcs⟩ := hcs
      obtain ⟨bytes', hbytes', hct⟩ := hct
      obtain rfl : bytes = bytes' := Except.ok.inj (hbytes.symm.trans hbytes')
      exact hcs.trans hct.symm
  · exact hothers hk

theorem readFile_eq_ok_iff {path : String} : readFile files path = .ok s ↔
    ∃ text, files path >>= decodeText = .ok text ∧
      ∃ doc, Toml.read? text = some (.record doc) ∧ ofValue? (.record doc) = some s := by
  unfold readFile
  cases files path >>= decodeText with
  | error fault => simp
  | ok text =>
    have hrecord : (Toml.read? text).bind ofValue? = some s ↔
        ∃ doc, Toml.read? text = some (.record doc) ∧ ofValue? (.record doc) = some s := by
      rw [Option.bind_eq_some_iff]
      constructor
      · rintro ⟨v, hv, hs⟩
        cases v with
        | record doc => exact ⟨doc, hv, hs⟩
        | _ => cases hs
      · rintro ⟨doc, hv, hs⟩
        exact ⟨_, hv, hs⟩
    simp only [Except.ok.injEq, exists_eq_left', ← hrecord]
    cases (Toml.read? text).bind ofValue? <;> simp

theorem base_eq_ok_iff : base env files = .ok s ↔
    ∃ doc, IsDocument env files doc ∧ ofValue? (.record doc) = some s := by
  unfold base IsDocument
  cases env fileVariable with
  | none =>
    have hempty : ofValue? (.record []) = some standard := rfl
    simp [hempty]
  | some path =>
    rw [readFile_eq_ok_iff]
    constructor
    · rintro ⟨text, htext, doc, hdoc, hs⟩
      exact ⟨doc, ⟨text, htext, hdoc⟩, hs⟩
    · rintro ⟨doc, ⟨text, htext, hdoc⟩, hs⟩
      exact ⟨text, htext, doc, hdoc, hs⟩

theorem overridden_eq_ok_iff : s.overridden env = .ok t ↔ s.applyOverrides env = (t, none) := by
  unfold overridden
  obtain ⟨u, invalid⟩ := s.applyOverrides env
  cases invalid <;> simp

theorem withCertificates_of_file {path : String} {bytes : List UInt8}
    (hpath : s.certFile = some path) (hbytes : files path = .ok bytes) :
    s.withCertificates files = .ok (Setting.certificates.put (some bytes) s) := by
  unfold withCertificates
  split
  · next hnone => cases hpath.symm.trans hnone
  · next path' hpath' =>
    obtain rfl : path = path' := Option.some.inj (hpath.symm.trans hpath')
    rw [hbytes]
    rfl

theorem withCertificates_of_no_file (hpath : s.certFile = none) :
    s.withCertificates files = .ok s := by
  rw [withCertificates, hpath]

theorem validated_eq_ok_iff : s.validated = .ok t ↔ s.backend.validate = .ok () ∧ s = t := by
  unfold validated
  cases s.backend.validate <;> simp

/-- What the variables make of the settings of a document. -/
theorem isOverlaid_of_overridden (hdoc : ofValue? (.record doc) = some s)
    (hset : s.overridden env = .ok t) : t.IsOverlaid env doc ∧
      Setting.certificates.IsFrom doc t.backend.certificates := by
  rw [overridden_eq_ok_iff] at hset
  have hkept (k : Setting) (hk : ∀ v : Variable, v.setting = k → env v.name = none) :
      k.IsFrom doc (k.get t) := by
    have hget : k.get (s.applyOverrides env).1 = k.get s :=
      get_override_of_unset fun v _ => hk v
    rw [hset] at hget
    rw [hget]
    exact isFrom_of_ofValue? hdoc k
  refine ⟨⟨fun v text htext => ?_, fun k _ hk => hkept k hk⟩, ?_⟩
  · exact read_of_override Variable.nodup_all hset v v.mem_all text htext
  · exact hkept .certificates fun v hv => absurd hv v.setting_ne_certificates

theorem IsOverlaid.isMerged (ht : t.IsOverlaid env doc)
    (hown : Setting.certificates.IsFrom doc t.backend.certificates)
    (hc : t.withCertificates files = .ok c) : c.IsMerged env files doc := by
  cases hpath : t.certFile with
  | none =>
    rw [withCertificates_of_no_file hpath] at hc
    obtain rfl := Except.ok.inj hc
    refine ⟨ht, ?_⟩
    rw [hpath]
    exact hown
  | some path =>
    cases hfile : files path with
    | error fault =>
      simp [withCertificates, hpath, hfile] at hc
    | ok bytes =>
      rw [withCertificates_of_file hpath hfile] at hc
      obtain rfl := Except.ok.inj hc
      refine ⟨ht.congr fun k hk => Setting.get_put_of_ne hk _ t, ?_⟩
      rw [show (Setting.certificates.put (some bytes) t).certFile = some path from hpath]
      exact ⟨bytes, hfile, rfl⟩

/-- The file of the certificates is decided by the layers below, and with it whether it can be
read. -/
theorem IsMerged.withCertificates_isOk (hc : c.IsMerged env files doc)
    (ht : t.IsOverlaid env doc) : ∃ c', t.withCertificates files = .ok c' := by
  have hfile : t.certFile = c.certFile := ht.get_eq (k := .certFile) hc.toIsOverlaid (by decide)
  have hcert := hc.certificates
  rw [← hfile] at hcert
  cases hpath : t.certFile with
  | none => exact ⟨t, withCertificates_of_no_file hpath⟩
  | some path =>
    rw [hpath] at hcert
    obtain ⟨bytes, hbytes, _⟩ := hcert
    exact ⟨_, withCertificates_of_file hpath hbytes⟩

theorem load_eq_ok_iff_steps : load env files = .ok c ↔ ∃ s, base env files = .ok s ∧
    ∃ t, s.overridden env = .ok t ∧ t.withCertificates files = .ok c ∧
      c.backend.validate = .ok () := by
  simp only [load, Outcome.bind_eq_ok_iff, validated_eq_ok_iff]
  constructor
  · rintro ⟨s, hs, t, ht, _, hc, hvalid, rfl⟩
    exact ⟨s, hs, t, ht, hc, hvalid⟩
  · rintro ⟨s, hs, t, ht, hc, hvalid⟩
    exact ⟨s, hs, t, ht, c, hc, hvalid, rfl⟩

/-- Loading succeeds exactly if there is a document of settings, and what the layers come to is
there and valid. -/
theorem load_eq_ok_iff : load env files = .ok c ↔ ∃ doc, IsDocument env files doc ∧
    (ofValue? (.record doc)).isSome = true ∧ c.IsMerged env files doc ∧
      c.backend.validate = .ok () := by
  rw [load_eq_ok_iff_steps]
  constructor
  · rintro ⟨s, hs, t, ht, hc, hvalid⟩
    obtain ⟨doc, hdoc, hs⟩ := base_eq_ok_iff.1 hs
    obtain ⟨hoverlaid, hown⟩ := isOverlaid_of_overridden hs ht
    exact ⟨doc, hdoc, by rw [hs]; rfl, hoverlaid.isMerged hown hc, hvalid⟩
  · rintro ⟨doc, hdoc, hs, hmerged, hvalid⟩
    obtain ⟨s, hs⟩ := Option.isSome_iff_exists.1 hs
    obtain ⟨t, ht⟩ : ∃ t, s.overridden env = .ok t := by
      have hnone : (s.applyOverrides env).2 = none :=
        override_eq_none_iff.2 fun v _ text htext => ⟨_, hmerged.set v text htext⟩
      exact ⟨_, overridden_eq_ok_iff.2 (Prod.ext rfl hnone)⟩
    obtain ⟨hoverlaid, hown⟩ := isOverlaid_of_overridden hs ht
    obtain ⟨c', hc'⟩ := hmerged.withCertificates_isOk hoverlaid
    obtain rfl : c' = c := (hoverlaid.isMerged hown hc').unique hmerged
    exact ⟨s, base_eq_ok_iff.2 ⟨doc, hdoc, hs⟩, t, ht, hc', hvalid⟩

end

/-- Settings are loaded exactly if there is a document of settings and what the layers come to is
there and valid: a variable that is set decides its setting, the document those that it gives and no
variable overrides, and the others are the standard ones, while the certificates are the content of
the file that is named in the end. They are not loaded if a variable that is set cannot be read, if
a file that is named cannot be read, or if what the layers come to is not valid. -/
theorem settings_come_in_layers (env : Environment) (files : Files) :
    (∀ c, load env files = .ok c ↔ ∃ doc, IsDocument env files doc ∧
      (ofValue? (.record doc)).isSome = true ∧ c.IsMerged env files doc ∧
        c.backend.validate = .ok ()) ∧
    (∀ (v : Variable) text fault, env v.name = some text → v.read text = .error fault →
      ∃ e, load env files = .error e) ∧
    (∀ path fault, env fileVariable = some path → files path >>= decodeText = .error fault →
      ∃ e, load env files = .error e) ∧
    (∀ (doc : List (String × Value)) (s : Settings) path fault, IsDocument env files doc →
      s.IsOverlaid env doc → s.certFile = some path → files path = .error fault →
      ∃ e, load env files = .error e) ∧
    (∀ (doc : List (String × Value)) (s : Settings) invalid, IsDocument env files doc →
      s.IsMerged env files doc → s.backend.validate = .error invalid →
      ∃ e, load env files = .error e) := by
  refine ⟨fun c => load_eq_ok_iff, fun v text fault htext hfault => ?_,
    fun path fault hpath hfault => ?_, fun doc s path fault hdoc hs hpath hfault => ?_,
    fun doc s invalid hdoc hs hinvalid => ?_⟩
  all_goals
    refine Outcome.exists_error_of_not_ok fun c hc => ?_
    obtain ⟨doc', hdoc', _, hmerged, hvalid⟩ := load_eq_ok_iff.1 hc
  · cases hfault.symm.trans (hmerged.set v text htext)
  · rw [IsDocument, hpath] at hdoc'
    obtain ⟨text, htext, _⟩ := hdoc'
    cases hfault.symm.trans htext
  · obtain rfl := hdoc'.unique hdoc
    have hfile : c.certFile = some path :=
      (hmerged.get_eq (k := .certFile) hs (by decide)).trans hpath
    have hcert := hmerged.certificates
    rw [hfile] at hcert
    obtain ⟨bytes, hbytes, _⟩ := hcert
    cases hfault.symm.trans hbytes
  · obtain rfl := hdoc'.unique hdoc
    obtain rfl := hmerged.unique hs
    cases hinvalid.symm.trans hvalid

/-- A document with a setting of the backend and a file of certificates. -/
def sampleDocument : String :=
  "rpc_cert_file = \"c.pem\"\n[backend]\nhost = \"node:1\"\nclient_buffer_size = 7\n"

def sampleFiles : Files := fun path =>
  if path = "a.toml" then .ok sampleDocument.toUTF8.toList
  else if path = "c.pem" then .ok [1, 2]
  else .error "No such file or directory"

/-- The environment that names the document and sets one more variable. -/
def sampleEnvironment (name text : String) : Environment := fun asked =>
  if asked = fileVariable then some "a.toml" else if asked = name then some text else none

def sampleLayered : Settings where
  backend := { BackendConfig.standard with
    network := .signet, host := "node:1", clientBuffer := 7, certificates := some [1, 2] }
  certFile := some "c.pem"
  watchAddresses := []
  notifyBlocks := false
  notifyAllMempool := false

/-- The same files, but for that of the certificates. -/
def sampleFilesLeft : Files := fun path =>
  if path = "c.pem" then .error "Permission denied" else sampleFiles path

theorem document_is_overridden_and_completed :
    let env := sampleEnvironment "CC_NETWORK" "signet"
    load env sampleFiles = .ok sampleLayered ∧
      (∃ doc, IsDocument env sampleFiles doc ∧ sampleLayered.IsMerged env sampleFiles doc) ∧
      (∃ e, load env sampleFilesLeft = .error e) ∧
      (∃ e, load env (fun _ => .error "Is a directory") = .error e) ∧
      ∃ e, load (sampleEnvironment "CC_DISABLE_TLS" "maybe") sampleFiles = .error e := by
  intro env
  have hload : load env sampleFiles = .ok sampleLayered := by decide +kernel
  have hflag : Variable.readFlag "maybe" = .error .notFlag := by decide +kernel
  obtain ⟨doc, hdoc, -, hmerged, -⟩ := ((settings_come_in_layers env sampleFiles).1 _).1 hload
  refine ⟨hload, ⟨doc, hdoc, hmerged⟩, ?_, ?_, ?_⟩
  · exact (settings_come_in_layers env sampleFilesLeft).2.2.2.1 doc sampleLayered "c.pem"
      "Permission denied" hdoc hmerged.toIsOverlaid rfl rfl
  · exact (settings_come_in_layers env _).2.2.1 "a.toml" "Is a directory" rfl rfl
  · exact (settings_come_in_layers _ _).2.1 .disableTls "maybe" .notFlag rfl hflag

end Settings

end ChainFeed
