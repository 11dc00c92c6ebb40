import ChainFeed.Proofs.Config.Override
import ChainFeed.Proofs.Text.Decimal
import ChainFeed.Proofs.Text.Listing

/-!
# Variables in their order

What a text says of a setting is told apart from how it is read. The variables that stand before the
first invalid one have taken effect, and nothing else has: neither that one nor those that follow it
touch a setting.
-/

namespace ChainFeed

namespace Variable

def flagWords : Bool → List String
  | true => ["true", "1", "yes"]
  | false => ["false", "0", "no"]

/-- What the text of a variable says of its setting. -/
def Says : (v : Variable) → String → v.setting.Content → Prop
  | network, text, n => n.name = text
  | host, text, a | user, text, a | pass, text, a => a = text
  | disableTls, text, b | rpcPolling, text, b | notifyBlocks, text, b =>
    Text.flagWord text ∈ flagWords b
  | certFile, text, path => path = some text
  | pollBlockMs, text, n | pollTxMs, text, n => Text.IsDecimal text n.toNat
  | watchAddresses, text, items => Text.IsListing items text

def IsValid (v : Variable) (text : String) : Prop := ∃ a, v.Says text a

theorem readNetwork_eq_ok_iff {text : String} {n : Network} :
    readNetwork text = .ok n ↔ n.name = text := by
  constructor
  · intro h
    unfold readNetwork at h
    cases hname : Network.ofName? text with
    | none =>
      rw [hname] at h
      cases h
    | some m =>
      rw [hname] at h
      obtain rfl := Except.ok.inj h
      exact Network.name_of_ofName? hname
  · rintro rfl
    rw [readNetwork, Network.ofName?_name]

theorem flag?_eq_some_iff {text : String} {b : Bool} :
    Text.flag? text = some b ↔ Text.flagWord text ∈ flagWords b := by
  rw [Text.flag?]
  simp only [Bool.or_eq_true, decide_eq_true_eq, or_assoc]
  split
  · next hyes =>
    cases b with
    | true => simpa [flagWords] using hyes
    | false =>
      -- no word says both
      obtain h | h | h := hyes <;> simp [flagWords, h]
  · next hyes =>
    have hnotYes : Text.flagWord text ∉ flagWords true := by simpa [flagWords] using hyes
    split
    · next hno =>
      cases b with
      | true => simp [hnotYes]
      | false => simpa [flagWords] using hno
    · next hno =>
      have hnotNo : Text.flagWord text ∉ flagWords false := by simpa [flagWords] using hno
      cases b <;> simp [hnotYes, hnotNo]

theorem readFlag_eq_ok_iff {text : String} {b : Bool} :
    readFlag text = .ok b ↔ Text.flagWord text ∈ flagWords b := by
  rw [← flag?_eq_some_iff, readFlag]
  cases Text.flag? text <;> simp

theorem readNumber_eq_ok_iff {text : String} {n : UInt64} :
    readNumber text = .ok n ↔ Text.IsDecimal text n.toNat := by
  rw [← Text.readUnsigned_eq_ok_iff]
  unfold readNumber
  cases Text.readUnsigned text <;> simp

/-- What is read is what the text says. -/
theorem read_eq_ok_iff {v : Variable} {text : String} {a : v.setting.Content} :
    v.read text = .ok a ↔ v.Says text a := by
  cases v with simp only [read, Says]
  | network => exact readNetwork_eq_ok_iff
  | disableTls | rpcPolling | notifyBlocks => exact readFlag_eq_ok_iff
  | pollBlockMs | pollTxMs => exact readNumber_eq_ok_iff
  | watchAddresses => exact (Iff.of_eq (Except.ok.injEq _ _)).trans readItems_eq_iff
  | host | user | pass | certFile => exact (Iff.of_eq (Except.ok.injEq _ _)).trans eq_comm

theorem isValid_iff {v : Variable} {text : String} :
    v.IsValid text ↔ ∃ a, v.read text = .ok a := by
  simp only [IsValid, read_eq_ok_iff]

theorem not_isValid_of_read {v : Variable} {text : String} {fault : Fault}
    (h : v.read text = .error fault) : ¬ v.IsValid text := by
  rw [isValid_iff]
  rintro ⟨a, ha⟩
  cases h.symm.trans ha

end Variable

theorem InvalidVariable.message_names (i : InvalidVariable) :
    ∃ rest, i.message = i.which.name ++ "=" ++ i.text ++ ": " ++ rest ∨
      i.message = i.which.name ++ ": " ++ rest := by
  obtain ⟨v, text, fault⟩ := i
  cases fault with
  | unknownNetwork =>
    refine ⟨"failed to parse " ++ text ++ " as network", .inl ?_⟩
    simp only [message, Variable.Fault.message, String.append_assoc]
    rfl
  | notFlag =>
    refine ⟨"expected a boolean, got " ++ Text.quoted (Text.flagWord text), .inr ?_⟩
    simp only [message, Variable.Fault.message, String.append_assoc]
    rfl
  | notNumber fault => exact ⟨fault.message, .inl rfl⟩

namespace Settings

/-- The variables of the list that are set say what their settings now are, and the settings of no
others have changed. -/
structure Overridden (env : Environment) (l : List Variable) (s t : Settings) : Prop where
  set : ∀ v ∈ l, ∀ text, env v.name = some text → ∀ a, v.Says text a ↔ a = v.setting.get t
  kept : ∀ k : Setting, (∀ v ∈ l, v.setting = k → env v.name = none) → k.get t = k.get s

variable {env : Environment} {s t : Settings}

theorem overridden_of_override {l : List Variable} (hl : l.Nodup)
    (h : override env l s = (t, none)) : Overridden env l s t := by
  refine ⟨fun v hv text htext a => ?_, fun k hk => ?_⟩
  · rw [← Variable.read_eq_ok_iff, read_of_override hl h v hv text htext, Except.ok.injEq, eq_comm]
  · have hget : k.get (override env l s).1 = k.get s := get_override_of_unset hk
    rwa [h] at hget

/-- What the variables say already need not be set again. -/
theorem Overridden.override_self {l : List Variable} (h : Overridden env l s t) :
    override env l t = (t, none) := by
  have hread : ∀ v ∈ l, ∀ text, env v.name = some text →
      v.read text = .ok (v.setting.get t) := fun v hv text htext =>
    Variable.read_eq_ok_iff.2 ((h.set v hv text htext _).2 rfl)
  clear h
  induction l with
  | nil => rfl
  | cons v rest ih =>
    obtain ⟨hv, hrest⟩ := List.forall_mem_cons.1 hread
    cases henv : env v.name with
    | none => rw [override_of_unset henv, ih hrest]
    | some text => rw [override_of_read henv (hv text henv), Setting.put_get, ih hrest]

/-- The first invalid value ends it. -/
theorem override_of_some {l : List Variable} {invalid : InvalidVariable}
    (h : override env l s = (t, some invalid)) : ∃ before after,
      l = before ++ invalid.which :: after ∧ override env before s = (t, none) ∧
      env invalid.which.name = some invalid.text ∧
      invalid.which.read invalid.text = .error invalid.fault := by
  induction l generalizing s with
  | nil => cases h
  | cons v rest ih =>
    cases henv : env v.name with
    | none =>
      rw [override_of_unset henv] at h
      obtain ⟨before, after, rfl, hbefore, hinvalid⟩ := ih h
      exact ⟨v :: before, after, rfl, by rw [override_of_unset henv, hbefore], hinvalid⟩
    | some text =>
      cases hread : v.read text with
      | error fault =>
        rw [override_of_invalid henv hread, Prod.mk.injEq, Option.some.injEq] at h
        obtain ⟨rfl, rfl⟩ := h
        exact ⟨[], rest, rfl, rfl, henv, hread⟩
      | ok a =>
        rw [override_of_read henv hread] at h
        obtain ⟨before, after, rfl, hbefore, hinvalid⟩ := ih h
        exact ⟨v :: before, after, rfl, by rw [override_of_read henv hread, hbefore], hinvalid⟩

theorem applyOverrides_eq_none_iff : (s.applyOverrides env).2 = none ↔
    ∀ (v : Variable) (text : String), env v.name = some text → v.IsValid text := by
  simp only [applyOverrides, override_eq_none_iff, Variable.isValid_iff, Variable.mem_all,
    forall_const]

/-- If all variables that are set have valid values, then these are the settings afterwards, the
others have not changed, and doing it again changes nothing; a listing of addresses leaves exactly
its items. Otherwise the first variable in the order that has an invalid value is told: the
variables before it have taken effect, and its own setting, those of the variables after it and all
others are what they were. -/
theorem overrides_take_effect_in_order (env : Environment) (s : Settings) :
    ((∀ (v : Variable) (text : String), env v.name = some text → v.IsValid text) →
      ∃ t, s.applyOverrides env = (t, none) ∧ Overridden env Variable.all s t ∧
        t.applyOverrides env = (t, none) ∧
        ∀ text items, env Variable.watchAddresses.name = some text →
          Text.IsListing items text → t.watchAddresses = items) ∧
    ((∃ (v : Variable) (text : String), env v.name = some text ∧ ¬ v.IsValid text) →
      ∃ t invalid before after, s.applyOverrides env = (t, some invalid) ∧
        Variable.all = before ++ invalid.which :: after ∧
        env invalid.which.name = some invalid.text ∧ ¬ invalid.which.IsValid invalid.text ∧
        (∃ rest, invalid.message = invalid.which.name ++ "=" ++ invalid.text ++ ": " ++ rest ∨
          invalid.message = invalid.which.name ++ ": " ++ rest) ∧
        (∀ v ∈ before, ∀ text, env v.name = some text → v.IsValid text) ∧
        Overridden env before s t ∧
        ∀ v ∈ invalid.which :: after, v.setting.get t = v.setting.get s) := by
  constructor
  · intro hvalid
    have hnone : (s.applyOverrides env).2 = none := applyOverrides_eq_none_iff.2 hvalid
    have happly : override env Variable.all s = ((s.applyOverrides env).1, none) :=
      Prod.ext rfl hnone
    have hover := overridden_of_override Variable.nodup_all happly
    refine ⟨_, happly, hover, hover.override_self, fun text items htext hitems => ?_⟩
    exact ((hover.set .watchAddresses (Variable.mem_all _) text htext items).1 hitems).symm
  · rintro ⟨v, text, htext, hinvalid⟩
    have hsome : (s.applyOverrides env).2 ≠ none := fun hnone =>
      hinvalid (applyOverrides_eq_none_iff.1 hnone v text htext)
    obtain ⟨invalid, hfault⟩ := Option.ne_none_iff_exists'.1 hsome
    obtain ⟨before, after, hall, hbefore, henv, hread⟩ :=
      override_of_some (t := (s.applyOverrides env).1) (Prod.ext rfl hfault)
    have hnodup : (before ++ invalid.which :: after).Nodup := hall ▸ Variable.nodup_all
    have hover := overridden_of_override (List.nodup_append.1 hnodup).1 hbefore
    refine ⟨_, invalid, before, after, Prod.ext rfl hfault, hall, henv,
      Variable.not_isValid_of_read hread, invalid.message_names, fun w hw text htext => ?_, hover,
      fun w hw => hover.kept w.setting fun u hu hsetting => ?_⟩
    · exact ⟨_, (hover.set w hw text htext _).2 rfl⟩
    · obtain rfl := Variable.setting_injective hsetting
      exact absurd rfl ((List.nodup_append.1 hnodup).2.2 u hu u hw)

/-- A host, a listing of addresses and, after them, a flag. -/
def environmentWithFlag (flag : String) : Environment := fun asked =>
  if asked = "CC_RPC_HOST" then some "node:1"
  else if asked = "CC_WATCH_ADDRESSES" then some " a, b,,c "
  else if asked = "CC_NOTIFY_BLOCKS" then some flag
  else none

theorem flag_decides_whether_overrides_succeed :
    (∃ t, standard.applyOverrides (environmentWithFlag "Yes") = (t, none) ∧
      t.backend.host = "node:1" ∧ t.watchAddresses = ["a", "b", "c"] ∧ t.notifyBlocks = true ∧
      t.applyOverrides (environmentWithFlag "Yes") = (t, none)) ∧
    ∃ t invalid, standard.applyOverrides (environmentWithFlag "maybe") = (t, some invalid) ∧
      invalid.which = .notifyBlocks ∧ t.backend.host = "node:1" ∧
      t.notifyBlocks = standard.notifyBlocks := by
  have hlisting : Text.IsListing ["a", "b", "c"] " a, b,,c " :=
    Variable.readItems_eq_iff.1 (by decide +kernel)
  constructor
  · have hyes : Text.flagWord "Yes" ∈ Variable.flagWords true := by decide +kernel
    have hvalid := applyOverrides_eq_none_iff.1
      (show (standard.applyOverrides (environmentWithFlag "Yes")).2 = none by decide +kernel)
    obtain ⟨t, ht, hset, hagain, haddresses⟩ :=
      (overrides_take_effect_in_order (environmentWithFlag "Yes") standard).1 hvalid
    refine ⟨t, ht, ?_, haddresses _ _ rfl hlisting, ?_, hagain⟩
    · exact ((hset.set .host (by decide) "node:1" rfl "node:1").1 rfl).symm
    · exact ((hset.set .notifyBlocks (by decide) "Yes" rfl true).1 hyes).symm
  · have hmaybe : ¬ Variable.notifyBlocks.IsValid "maybe" :=
      Variable.not_isValid_of_read
        (show Variable.readFlag "maybe" = .error .notFlag by decide +kernel)
    obtain ⟨t, ⟨v, text, fault⟩, _, _, ht, _, _, _, _, _, _, hkept⟩ :=
      (overrides_take_effect_in_order (environmentWithFlag "maybe") standard).2
        ⟨.notifyBlocks, "maybe", rfl, hmaybe⟩
    have hwhich : (standard.applyOverrides (environmentWithFlag "maybe")).2.map (·.which) =
        some .notifyBlocks := by decide +kernel
    have hhost : (standard.applyOverrides (environmentWithFlag "maybe")).1.backend.host =
        "node:1" := by decide +kernel
    rw [ht] at hwhich hhost
    obtain rfl : v = .notifyBlocks := Option.some.inj hwhich
    exact ⟨t, _, ht, rfl, hhost, hkept .notifyBlocks List.mem_cons_self⟩

end Settings

end ChainFeed
