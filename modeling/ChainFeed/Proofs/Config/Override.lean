import ChainFeed.Config.Variable

/-!
# Settings one by one

Each setting can be read and replaced without the others, and settings that agree in each of them
are equal. A variable that is set replaces the one setting that is its own by what its text is read
as; the variables are taken in order, up to the first whose text is invalid.
-/

namespace ChainFeed

inductive Setting where
  | network
  | host
  | user
  | pass
  | disableTls
  | certificates
  | rpcPolling
  | pollBlockMs
  | pollTxMs
  | clientBuffer
  | timeoutSecs
  | autoCatchUp
  | certFile
  | watchAddresses
  | notifyBlocks
  | notifyAllMempool
  deriving DecidableEq

namespace Setting

abbrev Content : Setting → Type
  | network => Network
  | host | user | pass => String
  | disableTls | rpcPolling | autoCatchUp | notifyBlocks | notifyAllMempool => Bool
  | certificates => Option (List UInt8)
  | pollBlockMs | pollTxMs | clientBuffer | timeoutSecs => UInt64
  | certFile => Option String
  | watchAddresses => List String

def get : (k : Setting) → Settings → k.Content
  | network, s => s.backend.network
  | host, s => s.backend.host
  | user, s => s.backend.user
  | pass, s => s.backend.pass
  | disableTls, s => s.backend.disableTls
  | certificates, s => s.backend.certificates
  | rpcPolling, s => s.backend.rpcPolling
  | pollBlockMs, s => s.backend.pollBlockMs
  | pollTxMs, s => s.backend.pollTxMs
  | clientBuffer, s => s.backend.clientBuffer
  | timeoutSecs, s => s.backend.timeoutSecs
  | autoCatchUp, s => s.backend.autoCatchUp
  | certFile, s => s.certFile
  | watchAddresses, s => s.watchAddresses
  | notifyBlocks, s => s.notifyBlocks
  | notifyAllMempool, s => s.notifyAllMempool

def put : (k : Setting) → k.Content → Settings → Settings
  | network, a, s => { s with backend.network := a }
  | host, a, s => { s with backend.host := a }
  | user, a, s => { s with backend.user := a }
  | pass, a, s => { s with backend.pass := a }
  | disableTls, a, s => { s with backend.disableTls := a }
  | certificates, a, s => { s with backend.certificates := a }
  | rpcPolling, a, s => { s with backend.rpcPolling := a }
  | pollBlockMs, a, s => { s with backend.pollBlockMs := a }
  | pollTxMs, a, s => { s with backend.pollTxMs := a }
  | clientBuffer, a, s => { s with backend.clientBuffer := a }
  | timeoutSecs, a, s => { s with backend.timeoutSecs := a }
  | autoCatchUp, a, s => { s with backend.autoCatchUp := a }
  | certFile, a, s => { s with certFile := a }
  | watchAddresses, a, s => { s with watchAddresses := a }
  | notifyBlocks, a, s => { s with notifyBlocks := a }
  | notifyAllMempool, a, s => { s with notifyAllMempool := a }

@[simp] theorem get_put (k : Setting) (a : k.Content) (s : Settings) : k.get (k.put a s) = a := by
  cases k <;> rfl

theorem get_put_of_ne {k l : Setting} (h : k ≠ l) (a : l.Content) (s : Settings) :
    k.get (l.put a s) = k.get s := by
  cases l <;> cases k <;> first | rfl | exact absurd rfl h

@[simp] theorem put_get (k : Setting) (s : Settings) : k.put (k.get s) s = s := by
  cases k <;> rfl

theorem ext_get {s t : Settings} (h : ∀ k : Setting, k.get s = k.get t) : s = t := by
  have hbackend : s.backend = t.backend := by
    rw [BackendConfig.mk.injEq]
    exact ⟨h network, h host, h user, h pass, h disableTls, h certificates, h rpcPolling,
      h pollBlockMs, h pollTxMs, h clientBuffer, h timeoutSecs, h autoCatchUp⟩
  rw [Settings.mk.injEq]
  exact ⟨hbackend, h certFile, h watchAddresses, h notifyBlocks, h notifyAllMempool⟩

end Setting

namespace Variable

def setting : Variable → Setting
  | network => .network
  | host => .host
  | user => .user
  | pass => .pass
  | disableTls => .disableTls
  | rpcPolling => .rpcPolling
  | certFile => .certFile
  | pollBlockMs => .pollBlockMs
  | pollTxMs => .pollTxMs
  | watchAddresses => .watchAddresses
  | notifyBlocks => .notifyBlocks

/-- What the text of a variable is read as. -/
def read : (v : Variable) → String → Except Fault v.setting.Content
  | network, text => readNetwork text
  | host, text | user, text | pass, text => .ok text
  | disableTls, text | rpcPolling, text | notifyBlocks, text => readFlag text
  | certFile, text => .ok (some text)
  | pollBlockMs, text | pollTxMs, text => readNumber text
  | watchAddresses, text => .ok (readItems text)

theorem setting_injective {v w : Variable} (h : v.setting = w.setting) : v = w := by
  cases v <;> cases w <;> first | rfl | cases h

theorem setting_ne_certificates (v : Variable) : v.setting ≠ .certificates := by
  cases v <;> decide

theorem nodup_all : all.Nodup := by decide

theorem set_eq_map_read (v : Variable) (text : String) (s : Settings) :
    v.set text s = (v.read text).map fun a => v.setting.put a s := by
  cases v <;> rfl

end Variable

namespace Settings

variable {env : Environment} {s t : Settings}

theorem override_of_unset {v : Variable} (h : env v.name = none) (rest : List Variable) :
    override env (v :: rest) s = override env rest s := by
  rw [override, h]

theorem override_of_read {v : Variable} {text : String} {a : v.setting.Content}
    (h : env v.name = some text) (hread : v.read text = .ok a) (rest : List Variable) :
    override env (v :: rest) s = override env rest (v.setting.put a s) := by
  have hset : v.set text s = .ok (v.setting.put a s) := by rw [v.set_eq_map_read, hread]; rfl
  rw [override, h]
  dsimp only
  rw [hset]

theorem override_of_invalid {v : Variable} {text : String} {fault : Variable.Fault}
    (h : env v.name = some text) (hread : v.read text = .error fault) (rest : List Variable) :
    override env (v :: rest) s = (s, some ⟨v, text, fault⟩) := by
  have hset : v.set text s = .error fault := by rw [v.set_eq_map_read, hread]; rfl
  rw [override, h]
  dsimp only
  rw [hset]

/-- A setting is left alone if none of the variables that override it is set. -/
theorem get_override_of_unset {k : Setting} {l : List Variable}
    (h : ∀ v ∈ l, v.setting = k → env v.name = none) :
    k.get (override env l s).1 = k.get s := by
  induction l generalizing s with
  | nil => rfl
  | cons v rest ih =>
    obtain ⟨hv, hrest⟩ := List.forall_mem_cons.1 h
    cases henv : env v.name with
    | none => rw [override_of_unset henv, ih hrest]
    | some text =>
      have hne : k ≠ v.setting := by
        rintro rfl
        cases henv.symm.trans (hv rfl)
      cases hread : v.read text with
      | ok a => rw [override_of_read henv hread, ih hrest, Setting.get_put_of_ne hne]
      | error fault => rw [override_of_invalid henv hread]

/-- If no text is invalid, then each variable that is set decides its setting. -/
theorem read_of_override {l : List Variable} (hl : l.Nodup) (h : override env l s = (t, none)) :
    ∀ v ∈ l, ∀ text, env v.name = some text → v.read text = .ok (v.setting.get t) := by
  induction l generalizing s with
  | nil => intro v hv; cases hv
  | cons v rest ih =>
    obtain ⟨hv, hrest⟩ := List.nodup_cons.1 hl
    cases henv : env v.name with
    | none =>
      rw [override_of_unset henv] at h
      refine List.forall_mem_cons.2 ⟨fun text htext => ?_, ih hrest h⟩
      cases henv.symm.trans htext
    | some text =>
      cases hread : v.read text with
      | error fault =>
        rw [override_of_invalid henv hread] at h
        cases h
      | ok a =>
        rw [override_of_read henv hread] at h
        refine List.forall_mem_cons.2 ⟨fun text' htext => ?_, ih hrest h⟩
        obtain rfl : text = text' := Option.some.inj (henv.symm.trans htext)
        -- the variables that follow are others, so what `v` has set stays
        have hkept : v.setting.get (override env rest (v.setting.put a s)).1 =
            v.setting.get (v.setting.put a s) := by
          refine get_override_of_unset fun w hw hsetting => ?_
          exact absurd (Variable.setting_injective hsetting ▸ hw) hv
        rw [h] at hkept
        rw [hread, hkept, Setting.get_put]

theorem override_eq_none_iff {l : List Variable} : (override env l s).2 = none ↔
    ∀ v ∈ l, ∀ text, env v.name = some text → ∃ a, v.read text = .ok a := by
  induction l generalizing s with
  | nil => simp [override]
  | cons v rest ih =>
    rw [List.forall_mem_cons]
    cases henv : env v.name with
    | none => simp [override_of_unset henv, ih]
    | some text =>
      cases hread : v.read text with
      | ok a => simp [override_of_read henv hread, ih, hread]
      | error fault => simp [override_of_invalid henv hread, hread]

end Settings

end ChainFeed
