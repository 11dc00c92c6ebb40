import ChainFeed.Address.Watching
import ChainFeed.Proofs.Address.Base58
import ChainFeed.Proofs.Address.Witness
import Mathlib.Tactic.SplitIfs

/-!
# Addresses given as text

An address that is read from a text is read again from the text that it is shown as: this is the
same text in base 58, and for a witness program a text of the same program. The scripts of witness
programs have addresses, and are watched by these in lower and in upper case.
-/

namespace ChainFeed

namespace Address

variable {a : Address} {text : List Char}

theorem ofText_witness (k : Bech32.Casing) (hrp : Hrp) (w : WitnessProgram) :
    ofText ((witness hrp w).text.map k.write) = .ok (.witness hrp w) := by
  have hletters : hrp.text.all (fun c => decide (c ∈ Bech32.letters)) = true := by
    cases hrp <;> decide
  have hhrp : ∀ c ∈ hrp.text, c ∈ Bech32.letters := by simpa using hletters
  have hdecode : WitnessProgram.decode? ((witness hrp w).text.map k.write) = some (hrp.text, w) :=
    WitnessProgram.decode?_encode k hhrp (by cases hrp <;> decide) (by cases hrp <;> decide) w
  simp only [ofText, hdecode, Hrp.ofText?_text]

/-- The version is that of the kind of address and its networks. -/
theorem encodeChecked_of_ofPayload {payload : List UInt8} (h : ofPayload payload = .ok a) :
    a.text = Base58.encodeChecked payload := by
  cases payload with
  | nil => cases h
  | cons version bytes =>
    rw [ofPayload] at h
    split_ifs at h with hlength hversion hversion hversion hversion
    all_goals
      cases h
    all_goals
      subst hversion
      rfl

theorem text_of_ofText? {text : List Char} {h : Hrp} (hh : Hrp.ofText? text = some h) :
    h.text = text := by
  simpa using List.find?_some hh

/-- A text that is read as an address is the text of the address, for a witness program in either
case. -/
theorem ofText_cases (h : ofText text = .ok a) : a.text = text ∨
    ∃ hrp w, a = .witness hrp w ∧ ∃ k : Bech32.Casing, text = a.text.map k.write := by
  cases hdecode : WitnessProgram.decode? text with
  | none =>
    simp only [ofText, hdecode] at h
    split at h
    · cases h
    · split at h
      · cases h
      · next payload hpayload =>
        left
        rw [encodeChecked_of_ofPayload h, Base58.encodeChecked_of_decodeChecked? hpayload]
  | some found =>
    obtain ⟨front, w⟩ := found
    simp only [ofText, hdecode] at h
    split at h
    · next hrp hfront =>
      obtain rfl := Except.ok.inj h
      obtain ⟨k, hk⟩ := WitnessProgram.exists_write_of_decode? hdecode
      rw [← text_of_ofText? hfront] at hk
      exact .inr ⟨hrp, w, rfl, k, hk⟩
    · cases h

/-- An address is read again from its text. -/
theorem ofText_text (h : ofText text = .ok a) : ofText a.text = .ok a := by
  obtain htext | ⟨hrp, w, rfl, _⟩ := ofText_cases h
  · rwa [htext]
  · have hlower := ofText_witness .lower hrp w
    rwa [Bech32.Casing.write, List.map_id] at hlower

theorem eq_render_or_upper {text : String} (h : ofText text.toList = .ok a) : text = a.render ∨
    (∃ hrp w, a = .witness hrp w) ∧ text = String.ofList (a.text.map Char.toUpper) := by
  have hself : text = String.ofList text.toList := String.ofList_toList.symm
  obtain htext | ⟨hrp, w, rfl, k, hk⟩ := ofText_cases h
  · exact .inl (by rw [render, htext, ← hself])
  · cases k with
    | lower =>
      rw [Bech32.Casing.write, List.map_id] at hk
      exact .inl (by rw [render, ← hk, ← hself])
    | upper => exact .inr ⟨⟨hrp, w, rfl⟩, hself.trans (congrArg String.ofList hk)⟩

theorem ofTextOn_eq_ok_iff {n : Network} :
    ofTextOn n text = .ok a ↔ ofText text = .ok a ∧ a.servesNetwork n = true := by
  unfold ofTextOn
  cases ofText text with
  | error fault => simp [bind, Except.bind]
  | ok b =>
    simp only [bind, Except.bind, Except.ok.injEq]
    constructor
    · intro h
      split at h
      · next hserves =>
        obtain rfl := Except.ok.inj h
        exact ⟨rfl, hserves⟩
      · cases h
    · rintro ⟨rfl, hserves⟩
      rw [if_pos hserves]

theorem ofScript?_witness (n : Network) (w : WitnessProgram) :
    ofScript? n w.script = some (.witness (.ofNetwork n) w) := by
  obtain ⟨hkeyHash, hscriptHash, _⟩ := WitnessProgram.versionOpcode_of_le w.version w.version_le
  have hprogram := w.ofScript?_script
  unfold ofScript?
  split
  · next rest hscript => exact absurd (List.head_eq_of_cons_eq hscript) hkeyHash
  · next rest hscript => exact absurd (List.head_eq_of_cons_eq hscript) hscriptHash
  · rw [hprogram, Option.map_some]

end Address

namespace Client

/-- The client after it has been given a text to watch: as it was, if the text is refused. -/
def afterWatching (c : Client) (text : String) : Client :=
  match c.watchAddressText text with
  | .ok (after, _) => after
  | .error _ => c

variable {c : Client} {a : Address} {text : String}

theorem watchAddressText_of_ok (h : Address.ofTextOn c.network text.toList = .ok a) :
    c.watchAddressText text = .ok (c.afterWatching text, a) ∧
      c.afterWatching text = c.watchAddress a := by
  have hwatch : c.watchAddressText text = .ok (c.watchAddress a, a) := by
    rw [watchAddressText, h]
  have hafter : c.afterWatching text = c.watchAddress a := by
    rw [afterWatching, hwatch]
  exact ⟨by rw [hafter, hwatch], hafter⟩

theorem watchAddressText_of_error {fault : Address.Fault}
    (h : Address.ofTextOn c.network text.toList = .error fault) :
    c.watchAddressText text = .error (.invalidAddress (text ++ ": " ++ fault.message)) ∧
      c.afterWatching text = c := by
  have hwatch : c.watchAddressText text =
      .error (.invalidAddress (text ++ ": " ++ fault.message)) := by
    rw [watchAddressText, h]
  exact ⟨hwatch, by rw [afterWatching, hwatch]⟩

/-- A text is refused, or it is that of an address of the client's network, which is then watched
and read again from the text that it is shown as. -/
theorem watched_addresses_are_read_again (c : Client) :
    (∀ text, (∃ reason, c.watchAddressText text = .error (.invalidAddress reason) ∧
        c.afterWatching text = c) ∨
      ∃ a, c.watchAddressText text = .ok (c.afterWatching text, a) ∧
        a.servesNetwork c.network = true ∧
        (text = a.render ∨ (∃ hrp w, a = .witness hrp w) ∧
          text = String.ofList (a.text.map Char.toUpper)) ∧
        c.afterWatching text =
          { c with watch := { c.watch with scripts := c.watch.scripts.insert a.script } } ∧
        ∀ again : Client, again.network = c.network →
          again.watchAddressText a.render = .ok (again.watchAddress a, a)) ∧
    ∀ w : WitnessProgram, ∃ a, Address.ofScript? c.network w.script = some a ∧
      ∀ shown ∈ [a.render, String.ofList (a.text.map Char.toUpper)],
        c.watchAddressText shown = .ok (c.afterWatching shown, a) ∧
          c.afterWatching shown =
            { c with watch := { c.watch with scripts := c.watch.scripts.insert w.script } } := by
  refine ⟨fun text => ?_, fun w => ?_⟩
  · cases hread : Address.ofTextOn c.network text.toList with
    | error fault =>
      obtain ⟨hrefused, hsame⟩ := watchAddressText_of_error hread
      exact .inl ⟨_, hrefused, hsame⟩
    | ok a =>
      obtain ⟨hwatched, hafter⟩ := watchAddressText_of_ok hread
      obtain ⟨htext, hserves⟩ := Address.ofTextOn_eq_ok_iff.1 hread
      refine .inr ⟨a, hwatched, hserves, Address.eq_render_or_upper htext, hafter,
        fun again hnetwork => ?_⟩
      have hagain : Address.ofTextOn again.network a.render.toList = .ok a := by
        rw [Address.render, String.toList_ofList, hnetwork]
        exact Address.ofTextOn_eq_ok_iff.2 ⟨Address.ofText_text htext, hserves⟩
      obtain ⟨hwatched, hafter⟩ := watchAddressText_of_ok hagain
      rw [hwatched, hafter]
  · let a : Address := .witness (.ofNetwork c.network) w
    have hserves : a.servesNetwork c.network = true := decide_eq_true rfl
    have hcasing (k : Bech32.Casing) : Address.ofTextOn c.network (a.text.map k.write) = .ok a :=
      Address.ofTextOn_eq_ok_iff.2 ⟨Address.ofText_witness k _ w, hserves⟩
    refine ⟨a, Address.ofScript?_witness c.network w, fun shown hshown => ?_⟩
    have hread : Address.ofTextOn c.network shown.toList = .ok a := by
      rcases List.mem_cons.1 hshown with rfl | hupper
      · have hlower := hcasing .lower
        rw [Bech32.Casing.write, List.map_id] at hlower
        rwa [Address.render, String.toList_ofList]
      · rw [List.mem_singleton.1 hupper, String.toList_ofList]
        exact hcasing .upper
    exact watchAddressText_of_ok hread

theorem key_hash_program_is_watched_in_upper_case :
    let c := Client.new ⟨1⟩ .bitcoin true 1 default
    let program : List UInt8 := [0x75, 0x1e, 0x76, 0xe8, 0x19, 0x91, 0x96, 0xd4, 0x54, 0x94, 0x1c,
      0x45, 0xd1, 0xb3, 0xa3, 0x23, 0xf1, 0x43, 0x3b, 0xd6]
    (c.afterWatching "BC1QW508D6QEJXTDG4Y5R3ZARVARY0C5XW7KV8F3T4").watch.scripts.items =
      [0 :: 20 :: program] := by
  intro c program
  let w : WitnessProgram := ⟨0, program, rfl⟩
  obtain ⟨a, haddress, hwatched⟩ := (watched_addresses_are_read_again c).2 w
  obtain rfl : .witness .bc w = a :=
    Option.some.inj ((Address.ofScript?_witness .bitcoin w).symm.trans haddress)
  have hshown : String.ofList ((Address.witness .bc w).text.map Char.toUpper) =
      "BC1QW508D6QEJXTDG4Y5R3ZARVARY0C5XW7KV8F3T4" := by decide +kernel
  obtain ⟨_, hafter⟩ := hwatched _ (List.mem_cons_of_mem _ (List.mem_singleton_self _))
  rw [← hshown, hafter]
  decide

end Client

end ChainFeed
