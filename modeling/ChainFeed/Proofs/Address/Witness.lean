import ChainFeed.Address.Witness
import ChainFeed.Proofs.Address.Bech32
import ChainFeed.Proofs.Data.Bits

/-!
# Texts and scripts of witness programs

A witness program is read back from its text behind any human-readable part, in lower and in upper
case, and from its script.
-/

namespace ChainFeed.WitnessProgram

section symbols

theorem length_toSymbols (bytes : List UInt8) :
    (toSymbols bytes).length = (8 * bytes.length + 4) / 5 := by
  rw [toSymbols, List.length_map, Bits.length_groups, Bits.length_flatMap_ofNat]

/-- The bits of the symbols are those of the bytes, filled up with zeros. -/
theorem flatMap_toSymbols (bytes : List UInt8) :
    (toSymbols bytes).flatMap (fun s => Bits.ofNat 5 s.toNat) =
      (bytes.flatMap fun b => Bits.ofNat 8 b.toNat) ++
        List.replicate (5 * ((8 * bytes.length + 4) / 5) - 8 * bytes.length) false := by
  have hlength := Bits.length_flatMap_ofNat 8 UInt8.toNat bytes
  have hvalue (n : Nat) (hn : n < 2 ^ 5) : (BitVec.ofNat 5 n).toNat = n := by
    rw [BitVec.toNat_ofNat, Nat.mod_eq_of_lt hn]
  rw [toSymbols, hlength]
  apply Bits.flatMap_groups hvalue
  rw [List.length_append, hlength, List.length_replicate]
  omega

theorem ofSymbols?_toSymbols (bytes : List UInt8) : ofSymbols? (toSymbols bytes) = some bytes := by
  obtain ⟨padding, hpadding⟩ :
      ∃ padding, 5 * ((8 * bytes.length + 4) / 5) - 8 * bytes.length = padding := ⟨_, rfl⟩
  have hfew : padding ≤ 4 := by omega
  have hcount : (8 * bytes.length + padding) / 8 = bytes.length := by omega
  have hlength := Bits.length_flatMap_ofNat 8 UInt8.toNat bytes
  have hgroups := Bits.groups_flatMap_append 8 (l := bytes) (fun b _ => b.toNat_lt)
    (List.replicate padding false)
  have hbytes : (bytes.map UInt8.toNat).map Nat.toUInt8 = bytes := by
    rw [List.map_map]
    exact (List.map_congr_left fun b _ => UInt8.ofNat_toNat).trans (List.map_id _)
  rw [ofSymbols?, flatMap_toSymbols, hpadding]
  simp only [List.length_append, List.length_replicate, hlength, hcount, hgroups, hbytes]
  rw [← hlength, List.drop_left]
  simp [hfew]

/-- Symbols that are read are those that the bytes are written in: what is left over is filling. -/
theorem eq_toSymbols_of_ofSymbols? {data : List Bech32.Symbol} {bytes : List UInt8}
    (h : ofSymbols? data = some bytes) : data = toSymbols bytes := by
  have hlength := Bits.length_flatMap_ofNat 5 BitVec.toNat data
  have hdata := Bits.groups_flatMap_append 5 (l := data) (fun s _ => s.isLt) []
  obtain ⟨bits, hbits⟩ : ∃ bits, (data.flatMap fun s => Bits.ofNat 5 s.toNat) = bits := ⟨_, rfl⟩
  obtain ⟨count, hcount⟩ : ∃ count, bits.length / 8 = count := ⟨_, rfl⟩
  unfold ofSymbols? at h
  rw [hbits] at h hlength hdata
  rw [List.append_nil] at hdata
  dsimp only at h
  rw [hcount] at h
  obtain ⟨hleft, hbytes⟩ := Option.ite_none_right_eq_some.1 h
  rw [Bool.and_eq_true, decide_eq_true_iff, List.length_drop] at hleft
  have htake : (bits.take (8 * count)).length = 8 * count := by
    rw [List.length_take]
    omega
  have hgroups : Bits.groups 8 count bits = Bits.groups 8 count (bits.take (8 * count)) := by
    rw [← Bits.groups_append htake (bits.drop (8 * count)), List.take_append_drop]
  have hread : (bytes.flatMap fun b => Bits.ofNat 8 b.toNat) = bits.take (8 * count) := by
    rw [← Option.some.inj hbytes, hgroups]
    exact Bits.flatMap_groups (fun n hn => UInt8.toNat_ofNat_of_lt' hn) htake
  have hfilling : bits.drop (8 * count) = List.replicate (5 * data.length - 8 * count) false := by
    refine List.eq_replicate_iff.2 ⟨by rw [List.length_drop, hlength], fun b hb => ?_⟩
    simpa using List.all_eq_true.1 hleft.2 b hb
  have hsymbols : (8 * count + 4) / 5 = data.length := by omega
  have hvalue : (data.map BitVec.toNat).map (BitVec.ofNat 5) = data := by
    have hself (s : Bech32.Symbol) : BitVec.ofNat 5 s.toNat = s := by
      rw [BitVec.ofNat_toNat, BitVec.setWidth_eq]
    rw [List.map_map]
    exact (List.map_congr_left fun s _ => hself s).trans (List.map_id _)
  rw [toSymbols, hread, htake, hsymbols, ← hfilling, List.take_append_drop, hdata, hvalue]

end symbols

section lengths
variable (w : WitnessProgram)

theorem version_le : w.version ≤ 16 := by
  have hvalid := w.valid
  unfold isWitnessLength at hvalid
  split at hvalid
  · omega
  · simp at hvalid
    omega

theorem length_program_le : w.program.length ≤ 40 := by
  have hvalid := w.valid
  unfold isWitnessLength at hvalid
  split at hvalid <;> simp at hvalid <;> omega

theorem eq_of_ofParts? {w : WitnessProgram} {version : Nat} {program : List UInt8}
    (h : ofParts? version program = some w) : w.version = version ∧ w.program = program := by
  unfold ofParts? at h
  split at h
  · obtain rfl := Option.some.inj h
    exact ⟨rfl, rfl⟩
  · cases h

theorem ofParts?_self : ofParts? w.version w.program = some w := dif_pos w.valid

end lengths

section text
open Bech32
variable {text hrp : List Char} {w : WitnessProgram}

def symbols (w : WitnessProgram) : List Symbol := BitVec.ofNat 5 w.version :: toSymbols w.program

theorem toNat_version (w : WitnessProgram) : (BitVec.ofNat 5 w.version).toNat = w.version := by
  rw [BitVec.toNat_ofNat, Nat.mod_eq_of_lt (Nat.lt_of_le_of_lt w.version_le (by decide))]

/-- A text is read as a program exactly if its symbols are those of the program, with their
checksum. -/
theorem decode?_eq_some_iff : decode? text = some (hrp, w) ↔ text.length ≤ maxLength ∧
    parts? text = some (hrp, w.symbols ++ checksum (variant w.version) hrp w.symbols) := by
  unfold decode?
  constructor
  · intro h
    split at h
    · cases h
    · next hshort =>
      obtain ⟨⟨front, found⟩, hparts, h⟩ := Option.bind_eq_some_iff.1 h
      dsimp only at h
      split at h
      · cases h
      · next first others =>
        obtain ⟨data, hdata, h⟩ := Option.bind_eq_some_iff.1 h
        rw [unchecked?_eq_some_iff] at hdata
        split at h
        · cases h
        · next version program =>
          obtain ⟨bytes, hbytes, h⟩ := Option.bind_eq_some_iff.1 h
          obtain ⟨w', hw', h⟩ := Option.bind_eq_some_iff.1 h
          obtain ⟨rfl, rfl⟩ := Prod.mk.inj (Option.some.inj h)
          obtain rfl : first = version := List.head_eq_of_cons_eq hdata
          have hsymbols : w'.symbols = first :: program := by
            obtain ⟨hversion, hprogram⟩ := eq_of_ofParts? hw'
            rw [symbols, hversion, hprogram, ← eq_toSymbols_of_ofSymbols? hbytes,
              BitVec.ofNat_toNat, BitVec.setWidth_eq]
          refine ⟨by omega, ?_⟩
          rw [hparts, hsymbols, (eq_of_ofParts? hw').1, hdata]
  · rintro ⟨hshort, hparts⟩
    have hunchecked := unchecked?_eq_some_iff.2 (rfl : w.symbols ++
      checksum (variant w.version) hrp w.symbols = _)
    rw [symbols, List.cons_append] at hparts hunchecked
    rw [if_neg (by omega), hparts]
    simp only [Option.bind_eq_bind, Option.bind_some, toNat_version]
    rw [hunchecked]
    simp only [Option.bind_some, ofSymbols?_toSymbols, toNat_version, ofParts?_self]
    rfl

/-- A text of either case is read as the program that it is the text of. -/
theorem decode?_encode (k : Casing) (hhrp : ∀ c ∈ hrp, c ∈ letters) (hne : hrp ≠ [])
    (hlength : hrp.length ≤ 4) (w : WitnessProgram) :
    decode? ((w.encode hrp).map k.write) = some (hrp, w) := by
  have hprogram := w.length_program_le
  refine decode?_eq_some_iff.2 ⟨?_, parts?_write k _ hhrp hne (by omega)⟩
  simp only [maxLength, encode, Bech32.encode, List.length_map, List.length_append,
    List.length_cons, length_checksum, length_toSymbols]
  omega

/-- A text that is read as a program is the text of the program, in either case. -/
theorem exists_write_of_decode? (h : decode? text = some (hrp, w)) :
    ∃ k : Casing, text = (w.encode hrp).map k.write := by
  obtain ⟨hcase, hlower⟩ := eq_of_parts? (decode?_eq_some_iff.1 h).2
  obtain ⟨k, hk⟩ := exists_write_of_not_isMixedCase hcase
  rw [hlower] at hk
  exact ⟨k, hk⟩

end text

section script
variable (w : WitnessProgram)

theorem versionOpcode_of_le : ∀ version ≤ 16,
    versionOpcode version ≠ 0x76 ∧ versionOpcode version ≠ 0xa9 ∧
      (version ≠ 0 → versionOpcode version ≠ 0 ∧ 0x51 ≤ versionOpcode version ∧
        versionOpcode version ≤ 0x60 ∧ (versionOpcode version).toNat - 0x50 = version) := by
  decide

/-- The script of a program is the script of no other. -/
theorem ofScript?_script : ofScript? w.script = some w := by
  have hlength : w.program.length.toUInt8.toNat = w.program.length :=
    UInt8.toNat_ofNat_of_lt' (Nat.lt_of_le_of_lt w.length_program_le (by decide))
  rw [script, ofScript?, if_neg (by simp [hlength])]
  by_cases hversion : w.version = 0
  · have hself := w.ofParts?_self
    rw [hversion] at hself ⊢
    exact (if_pos rfl).trans hself
  · obtain ⟨hopcode, hlow, hhigh, hback⟩ :=
      (versionOpcode_of_le w.version w.version_le).2.2 hversion
    rw [if_neg hopcode, if_pos ⟨hlow, hhigh⟩, hback, ofParts?_self]

end script

end ChainFeed.WitnessProgram
