import ChainFeed.Chain.Block
import ChainFeed.Proofs.Consensus.Inverse

/-!
# Reading back transactions and blocks

Each reader of a part inverts the form of that part. Inputs are read without their witnesses, which
come behind the outputs, so a transaction without a witness is read by the plain form and every
other one behind the mark. What fits is bounded by the 64-bit counts and by the limit on a witness,
and the limit on a whole serialization implies all of these bounds.
-/

namespace ChainFeed

open Consensus Reader

namespace Consensus

/-- A witness takes at most `vectorLimit` bytes behind its count. -/
def WitnessFits (witness : List (List UInt8)) : Prop :=
  (witness.flatMap encodeBlob).length ≤ vectorLimit

theorem length_encodeBlob (l : List UInt8) :
    (encodeBlob l).length = CompactSize.width l.length + l.length := by
  rw [encodeBlob, List.length_append, CompactSize.length_encode]

theorem readWitnessElements_zero (count used : Nat) : readWitnessElements count used 0 = pure [] :=
  rfl

theorem readWitnessElements_succ (count used left : Nat) :
    readWitnessElements count used (left + 1) = (do
      let size ← CompactSize.reader
      let needed := 4 * count + used + size + CompactSize.width size
      if 2 ^ 64 ≤ needed then .fail (.oversized (2 ^ 64 - 1))
      else if vectorLimit + 4 * count < needed then .fail (.oversized needed)
      else
        let element ← Reader.bytes size
        let rest ← readWitnessElements count (used + size + CompactSize.width size) left
        pure (element :: rest)) :=
  rfl

theorem readWitnessElements_eq_ok_iff {count used left : Nat} {s rest : List UInt8}
    {l : List (List UInt8)} (hcount : count ≤ vectorLimit) (hused : used ≤ vectorLimit) :
    readWitnessElements count used left s = .ok (l, rest) ↔
      l.length = left ∧ used + (l.flatMap encodeBlob).length ≤ vectorLimit ∧
        s = l.flatMap encodeBlob ++ rest := by
  have hlimit : vectorLimit = 4000000 := rfl
  induction left generalizing used s l with
  | zero =>
    rw [readWitnessElements_zero, pure_eq_ok_iff, List.length_eq_zero_iff]
    constructor
    · rintro ⟨rfl, rfl⟩
      exact ⟨rfl, hused, rfl⟩
    · rintro ⟨rfl, _, rfl⟩
      exact ⟨rfl, rfl⟩
  | succ left ih =>
    simp only [readWitnessElements_succ, bind_eq_ok_iff, CompactSize.inverts_reader _ _ _]
    constructor
    · rintro ⟨size, mid, ⟨hsize, rfl⟩, hread⟩
      split at hread
      · cases hread
      split at hread
      · cases hread
      next hroom =>
      have hnext : used + size + CompactSize.width size ≤ vectorLimit := by omega
      simp only [bind_eq_ok_iff, bytes_eq_ok_iff, pure_eq_ok_iff] at hread
      obtain ⟨b, _, ⟨rfl, rfl⟩, l, _, hl, rfl, rfl⟩ := hread
      obtain ⟨hlength, htotal, rfl⟩ := (ih hnext).1 hl
      rw [List.flatMap_cons, List.length_append, length_encodeBlob]
      refine ⟨by rw [List.length_cons, hlength], by omega, ?_⟩
      rw [encodeBlob, List.append_assoc, List.append_assoc]
    · rintro ⟨hlength, htotal, rfl⟩
      cases l with
      | nil => cases hlength
      | cons b l =>
        rw [List.flatMap_cons, List.length_append, length_encodeBlob] at htotal
        refine ⟨b.length, b ++ (l.flatMap encodeBlob ++ rest), ⟨by omega, ?_⟩, ?_⟩
        · rw [List.flatMap_cons, encodeBlob, List.append_assoc, List.append_assoc]
        · rw [if_neg (by omega), if_neg (by omega)]
          simp only [bind_eq_ok_iff, bytes_eq_ok_iff, pure_eq_ok_iff]
          refine ⟨b, _, ⟨rfl, rfl⟩, l, rest, ?_, rfl, rfl⟩
          exact (ih (by omega)).2 ⟨Nat.succ.inj hlength, by omega, rfl⟩

/-- Elements that take at least a byte each are at most as many as their bytes. -/
theorem length_le_length_flatMap {α : Type} {write : α → List UInt8}
    (hwrite : ∀ a, 0 < (write a).length) (l : List α) : l.length ≤ (l.flatMap write).length := by
  induction l with
  | nil => exact Nat.zero_le _
  | cons a l ih =>
    have ha := hwrite a
    rw [List.flatMap_cons, List.length_append, List.length_cons]
    omega

theorem length_le_of_mem_flatMap {α : Type} {write : α → List UInt8} {l : List α} {a : α}
    (ha : a ∈ l) : (write a).length ≤ (l.flatMap write).length := by
  have hsub : (write a).Sublist (l.map write).flatten :=
    List.sublist_flatten_of_mem (List.mem_map_of_mem ha)
  exact hsub.length_le

theorem encodeBlob_pos (l : List UInt8) : 0 < (encodeBlob l).length := by
  have hwidth := CompactSize.width_pos l.length
  rw [length_encodeBlob]
  omega

theorem inverts_readWitness : readWitness.Inverts (encodeVector encodeBlob) WitnessFits := by
  intro s l rest
  have hzero : 0 ≤ vectorLimit := Nat.zero_le _
  simp only [readWitness, bind_eq_ok_iff, CompactSize.inverts_reader _ _ _]
  constructor
  · rintro ⟨count, mid, ⟨_, rfl⟩, hread⟩
    split at hread
    · cases hread
    next hcount =>
    obtain ⟨rfl, hfits, rfl⟩ :=
      (readWitnessElements_eq_ok_iff (Nat.not_lt.1 hcount) hzero).1 hread
    rw [Nat.zero_add] at hfits
    exact ⟨hfits, by rw [encodeVector, List.append_assoc]⟩
  · rintro ⟨hfits, rfl⟩
    have hcount : l.length ≤ vectorLimit :=
      Nat.le_trans (length_le_length_flatMap encodeBlob_pos l) hfits
    have hlimit : vectorLimit = 4000000 := rfl
    refine ⟨l.length, l.flatMap encodeBlob ++ rest, ⟨by omega, ?_⟩, ?_⟩
    · rw [encodeVector, List.append_assoc]
    · rw [if_neg (Nat.not_lt.2 hcount)]
      refine (readWitnessElements_eq_ok_iff hcount hzero).2 ⟨rfl, ?_, rfl⟩
      rw [Nat.zero_add]
      exact hfits

end Consensus

theorem OutPoint.inverts_reader : OutPoint.reader.Inverts OutPoint.encode fun _ => True := by
  intro s o rest
  simp only [OutPoint.reader, bind_eq_ok_iff, inverts_readDigest _ _ _, inverts_readWord _ _ _,
    pure_eq_ok_iff, true_and]
  constructor
  · rintro ⟨txid, _, rfl, vout, _, rfl, rfl, rfl⟩
    rw [encode, List.append_assoc]
  · rintro rfl
    exact ⟨o.txid, _, by rw [encode, List.append_assoc], o.vout, rest, rfl, rfl, rfl⟩

namespace TxIn

/-- The input as it is read before its witness. -/
def bare (i : TxIn) : TxIn := { i with witness := [] }

theorem inverts_reader : reader.Inverts encode fun i =>
    i.unlocking.length < 2 ^ 64 ∧ i.witness = [] := by
  intro s i rest
  simp only [reader, bind_eq_ok_iff, OutPoint.inverts_reader _ _ _, inverts_readBlob _ _ _,
    inverts_readWord _ _ _, pure_eq_ok_iff, true_and]
  constructor
  · rintro ⟨spends, _, rfl, unlocking, _, ⟨hsize, rfl⟩, sequence, _, rfl, rfl, rfl⟩
    exact ⟨⟨hsize, rfl⟩, by simp only [encode, List.append_assoc]⟩
  · rintro ⟨⟨hsize, hwitness⟩, rfl⟩
    refine ⟨i.spends, _, by simp only [encode, List.append_assoc], i.unlocking, _,
      ⟨hsize, rfl⟩, i.sequence, rest, rfl, ?_, rfl⟩
    rw [← hwitness]

/-- Witnesses are read one for each input, in order. -/
theorem readWitnesses_eq_ok_iff {l inputs : List TxIn} {s rest : List UInt8} :
    readWitnesses l s = .ok (inputs, rest) ↔ inputs.map bare = l.map bare ∧
      (∀ i ∈ inputs, WitnessFits i.witness) ∧ s = inputs.flatMap encodeWitness ++ rest := by
  induction l generalizing inputs s with
  | nil =>
    rw [readWitnesses, pure_eq_ok_iff, List.map_nil, List.map_eq_nil_iff]
    constructor
    · rintro ⟨rfl, rfl⟩
      exact ⟨rfl, fun _ hi => (nomatch hi), rfl⟩
    · rintro ⟨rfl, _, rfl⟩
      exact ⟨rfl, rfl⟩
  | cons i l ih =>
    simp only [readWitnesses, bind_eq_ok_iff, inverts_readWitness _ _ _, pure_eq_ok_iff]
    constructor
    · rintro ⟨witness, _, ⟨hfits, rfl⟩, inputs, _, hread, rfl, rfl⟩
      obtain ⟨hbare, hall, rfl⟩ := ih.1 hread
      refine ⟨?_, List.forall_mem_cons.2 ⟨hfits, hall⟩, ?_⟩
      · rw [List.map_cons, List.map_cons, hbare]
        rfl
      · rw [List.flatMap_cons, List.append_assoc]
        rfl
    · rintro ⟨hbare, hall, rfl⟩
      cases inputs with
      | nil => cases hbare
      | cons j inputs =>
        rw [List.map_cons, List.map_cons, List.cons.injEq] at hbare
        obtain ⟨hfits, hrest⟩ := List.forall_mem_cons.1 hall
        refine ⟨j.witness, inputs.flatMap encodeWitness ++ rest, ⟨hfits, ?_⟩, inputs, rest,
          ih.2 ⟨hbare.2, hrest, rfl⟩, ?_, rfl⟩
        · rw [List.flatMap_cons, List.append_assoc]
          rfl
        · have hfirst : { i with witness := j.witness } = j := by
            obtain ⟨hspends, hunlocking, hsequence⟩ := TxIn.mk.injEq .. ▸ hbare.1
            cases i
            cases j
            simp_all
          rw [hfirst]

theorem map_bare_eq_self_iff {l : List TxIn} : l.map bare = l ↔ ∀ i ∈ l, i.witness = [] := by
  constructor
  · intro h i hi
    rw [← h] at hi
    obtain ⟨j, _, rfl⟩ := List.mem_map.1 hi
    rfl
  · intro h
    have hself : ∀ i ∈ l, bare i = i := fun i hi => by rw [bare, ← h i hi]
    exact (List.map_congr_left hself).trans (List.map_id' l)

theorem encodeVector_bare (l : List TxIn) :
    encodeVector encode (l.map bare) = encodeVector encode l := by
  rw [encodeVector, encodeVector, List.length_map, List.flatMap_map]
  rfl

end TxIn

theorem TxOut.inverts_reader : TxOut.reader.Inverts TxOut.encode (·.script.length < 2 ^ 64) := by
  intro s o rest
  simp only [TxOut.reader, bind_eq_ok_iff, bytes_eq_ok_iff_number, inverts_readBlob _ _ _,
    pure_eq_ok_iff]
  constructor
  · rintro ⟨_, _, ⟨n, hn, rfl, rfl⟩, script, _, ⟨hsize, rfl⟩, rfl, rfl⟩
    have hvalue : n.toUInt64.toNat = n := by
      have hlt : n < 18446744073709551616 := hn
      simp; omega
    refine ⟨hsize, ?_⟩
    rw [LittleEndian.decode_encode hn, encode, hvalue, List.append_assoc]
  · rintro ⟨hsize, rfl⟩
    have hn : o.value.toNat < Nat.pow 256 8 := o.value.toNat_lt
    refine ⟨_, _, ⟨o.value.toNat, hn, rfl, by rw [encode, List.append_assoc]⟩, o.script, rest,
      ⟨hsize, rfl⟩, ?_, rfl⟩
    rw [LittleEndian.decode_encode hn]
    simp

namespace Transaction

/-- The counts of a transaction are 64-bit numbers, and its witnesses stay within their limit. -/
structure Fits (t : Transaction) : Prop where
  inputs : t.inputs.length < 2 ^ 64
  unlocking : ∀ i ∈ t.inputs, i.unlocking.length < 2 ^ 64
  witnesses : ∀ i ∈ t.inputs, WitnessFits i.witness
  outputs : t.outputs.length < 2 ^ 64
  scripts : ∀ o ∈ t.outputs, o.script.length < 2 ^ 64

theorem needsMark_eq_false_iff {t : Transaction} :
    t.needsMark = false ↔ t.inputs ≠ [] ∧ ∀ i ∈ t.inputs, i.witness = [] := by
  simp [needsMark]

/-- The reader behind the mark refuses exactly what needs no mark. -/
theorem not_needsMark_eq (version : Int32) (inputs : List TxIn) (outputs : List TxOut)
    (lockTime : UInt32) : (!inputs.isEmpty && inputs.all fun i => i.witness.isEmpty) =
      !(⟨version, inputs, outputs, lockTime⟩ : Transaction).needsMark := by
  simp [needsMark, List.all_eq_not_any_not]

theorem markedReader_eq_ok_iff {version : UInt32} {s rest : List UInt8} {t : Transaction} :
    markedReader version s = .ok (t, rest) ↔
      t.Fits ∧ t.needsMark = true ∧ t.version = version.toInt32 ∧
        s = encodeVector TxIn.encode t.inputs ++ (encodeVector TxOut.encode t.outputs ++
          (t.inputs.flatMap TxIn.encodeWitness ++ (encodeWord t.lockTime ++ rest))) := by
  simp only [markedReader, bind_eq_ok_iff, inverts_readVector TxIn.inverts_reader _ _ _,
    inverts_readVector TxOut.inverts_reader _ _ _, TxIn.readWitnesses_eq_ok_iff]
  constructor
  · rintro ⟨bare, _, ⟨⟨hcount, hall⟩, rfl⟩, outputs, _, ⟨⟨houtputs, hscripts⟩, rfl⟩, inputs, _,
      ⟨hbare, hwitnesses, rfl⟩, h⟩
    -- What is read first are the inputs without their witnesses.
    obtain rfl : inputs.map TxIn.bare = bare :=
      hbare.trans (TxIn.map_bare_eq_self_iff.2 fun i hi => (hall i hi).2)
    split at h
    · cases h
    next hmark =>
    simp only [bind_eq_ok_iff, inverts_readWord _ _ _, pure_eq_ok_iff, true_and] at h
    obtain ⟨lockTime, _, rfl, rfl, rfl⟩ := h
    rw [not_needsMark_eq version.toInt32 inputs outputs lockTime, Bool.not_eq_true',
      Bool.not_eq_false] at hmark
    rw [List.length_map] at hcount
    refine ⟨⟨hcount, fun i hi => ?_, hwitnesses, houtputs, hscripts⟩, hmark, rfl, ?_⟩
    · exact (hall i.bare (List.mem_map_of_mem hi)).1
    · rw [TxIn.encodeVector_bare]
  · rintro ⟨hfits, hmark, hversion, rfl⟩
    refine ⟨t.inputs.map TxIn.bare, encodeVector TxOut.encode t.outputs ++
      (t.inputs.flatMap TxIn.encodeWitness ++ (encodeWord t.lockTime ++ rest)), ⟨⟨?_, ?_⟩, ?_⟩,
      t.outputs, _, ⟨⟨hfits.outputs, hfits.scripts⟩, rfl⟩, t.inputs, encodeWord t.lockTime ++ rest,
      ⟨by rw [List.map_map]; rfl, hfits.witnesses, rfl⟩, ?_⟩
    · rw [List.length_map]
      exact hfits.inputs
    · intro i hi
      obtain ⟨j, hj, rfl⟩ := List.mem_map.1 hi
      exact ⟨hfits.unlocking j hj, rfl⟩
    · rw [TxIn.encodeVector_bare]
    · rw [not_needsMark_eq t.version t.inputs t.outputs t.lockTime, if_neg (by simp [hmark])]
      simp only [bind_eq_ok_iff, inverts_readWord _ _ _, pure_eq_ok_iff, true_and]
      exact ⟨t.lockTime, rest, rfl, by rw [← hversion], rfl⟩

theorem inverts_reader : reader.Inverts encode Fits := by
  intro s t rest
  simp only [reader, bind_eq_ok_iff, inverts_readWord _ _ _,
    inverts_readVector TxIn.inverts_reader _ _ _, true_and]
  constructor
  · rintro ⟨version, _, rfl, inputs, _, ⟨⟨hcount, hall⟩, rfl⟩, h⟩
    split at h
    · next hempty =>
      obtain rfl := List.isEmpty_iff.1 hempty
      simp only [bind_eq_ok_iff, byte_eq_ok_iff] at h
      obtain ⟨flag, _, rfl, h⟩ := h
      split at h
      · next hflag =>
        obtain ⟨hfits, hmark, hversion, rfl⟩ := markedReader_eq_ok_iff.1 h
        refine ⟨hfits, ?_⟩
        rw [encode, if_pos hmark, encodeMarked, hversion, hflag]
        simp only [List.append_assoc]
        rfl
      · cases h
    · next hsome =>
      simp only [bind_eq_ok_iff, inverts_readVector TxOut.inverts_reader _ _ _,
        inverts_readWord _ _ _, pure_eq_ok_iff, true_and] at h
      obtain ⟨outputs, _, ⟨⟨houtputs, hscripts⟩, rfl⟩, lockTime, _, rfl, rfl, rfl⟩ := h
      have hwitness : ∀ i ∈ inputs, i.witness = [] := fun i hi => (hall i hi).2
      have hmark : (⟨version.toInt32, inputs, outputs, lockTime⟩ : Transaction).needsMark = false :=
        needsMark_eq_false_iff.2 ⟨by simpa using hsome, hwitness⟩
      refine ⟨⟨hcount, fun i hi => (hall i hi).1, fun i hi => ?_, houtputs, hscripts⟩, ?_⟩
      · rw [hwitness i hi]
        exact Nat.zero_le _
      · rw [encode, if_neg (by simp [hmark]), encodePlain]
        simp only [List.append_assoc]
        rfl
  · rintro ⟨hfits, rfl⟩
    cases hmark : t.needsMark with
    | true =>
      have hform : t.encode ++ rest = encodeWord t.version.toUInt32 ++
          (encodeVector TxIn.encode [] ++ (1 :: (encodeVector TxIn.encode t.inputs ++
            (encodeVector TxOut.encode t.outputs ++ (t.inputs.flatMap TxIn.encodeWitness ++
              (encodeWord t.lockTime ++ rest)))))) := by
        rw [encode, if_pos hmark, encodeMarked]
        simp only [List.append_assoc]
        rfl
      refine ⟨t.version.toUInt32, _, hform, [], _, ⟨⟨by decide, fun _ hi => nomatch hi⟩, rfl⟩, ?_⟩
      rw [if_pos (by rfl), bind_of_ok (byte_eq_ok_iff.2 rfl), if_pos rfl]
      exact markedReader_eq_ok_iff.2 ⟨hfits, hmark, by simp, rfl⟩
    | false =>
      obtain ⟨hsome, hwitness⟩ := needsMark_eq_false_iff.1 hmark
      have hform : t.encode ++ rest = encodeWord t.version.toUInt32 ++
          (encodeVector TxIn.encode t.inputs ++
            (encodeVector TxOut.encode t.outputs ++ (encodeWord t.lockTime ++ rest))) := by
        rw [encode, if_neg (by simp [hmark]), encodePlain]
        simp only [List.append_assoc]
      refine ⟨t.version.toUInt32, _, hform, t.inputs, _,
        ⟨⟨hfits.inputs, fun i hi => ⟨hfits.unlocking i hi, hwitness i hi⟩⟩, rfl⟩, ?_⟩
      rw [if_neg (by simpa using hsome)]
      simp only [bind_eq_ok_iff, inverts_readVector TxOut.inverts_reader _ _ _,
        inverts_readWord _ _ _, pure_eq_ok_iff, true_and]
      exact ⟨t.outputs, _, ⟨⟨hfits.outputs, hfits.scripts⟩, rfl⟩, t.lockTime, rest, rfl,
        by simp, rfl⟩

/-- Every part of a transaction takes its share of the whole form. -/
theorem length_parts_le (t : Transaction) :
    (t.inputs.flatMap TxIn.encode).length ≤ t.encode.length ∧
      (t.outputs.flatMap TxOut.encode).length ≤ t.encode.length ∧
      ∀ i ∈ t.inputs, (i.witness.flatMap encodeBlob).length ≤ t.encode.length := by
  rw [encode]
  split
  · refine ⟨?_, ?_, fun i hi => ?_⟩
    · simp only [encodeMarked, encodeVector, List.length_append]
      omega
    · simp only [encodeMarked, encodeVector, List.length_append]
      omega
    · have hwitness : i.encodeWitness.length ≤ (t.inputs.flatMap TxIn.encodeWitness).length :=
        length_le_of_mem_flatMap hi
      simp only [TxIn.encodeWitness, encodeVector, List.length_append] at hwitness
      simp only [encodeMarked, List.length_append]
      omega
  · next hmark =>
    obtain ⟨_, hwitness⟩ := needsMark_eq_false_iff.1 (by simpa using hmark)
    refine ⟨?_, ?_, fun i hi => ?_⟩
    · simp only [encodePlain, encodeVector, List.length_append]
      omega
    · simp only [encodePlain, encodeVector, List.length_append]
      omega
    · rw [hwitness i hi]
      exact Nat.zero_le _

/-- The limit on a serialization implies the limits on all parts of it. -/
theorem fits_of_length_le {t : Transaction} (h : t.encode.length ≤ vectorLimit) : t.Fits := by
  have hlimit : vectorLimit = 4000000 := rfl
  obtain ⟨hinputs, houtputs, hwitnesses⟩ := t.length_parts_le
  have hin (i : TxIn) : i.unlocking.length < i.encode.length := by
    have hword : (encodeWord i.sequence).length = 4 := LittleEndian.length_encode 4 _
    simp only [TxIn.encode, length_encodeBlob, List.length_append]
    omega
  have hout (o : TxOut) : o.script.length < o.encode.length := by
    have hwidth := CompactSize.width_pos o.script.length
    simp only [TxOut.encode, length_encodeBlob, List.length_append]
    omega
  have hincount : t.inputs.length ≤ (t.inputs.flatMap TxIn.encode).length :=
    length_le_length_flatMap (fun i => Nat.zero_lt_of_lt (hin i)) _
  have houtcount : t.outputs.length ≤ (t.outputs.flatMap TxOut.encode).length :=
    length_le_length_flatMap (fun o => Nat.zero_lt_of_lt (hout o)) _
  refine ⟨by omega, fun i hi => ?_, fun i hi => Nat.le_trans (hwitnesses i hi) h, by omega,
    fun o ho => ?_⟩
  · have hpart : i.encode.length ≤ (t.inputs.flatMap TxIn.encode).length :=
      length_le_of_mem_flatMap hi
    have hsize := hin i
    omega
  · have hpart : o.encode.length ≤ (t.outputs.flatMap TxOut.encode).length :=
      length_le_of_mem_flatMap ho
    have hsize := hout o
    omega

theorem length_encode_pos (t : Transaction) : 0 < t.encode.length := by
  have hword : (encodeWord t.lockTime).length = 4 := LittleEndian.length_encode 4 _
  rw [encode]
  split
  · simp only [encodeMarked, List.length_append]
    omega
  · simp only [encodePlain, List.length_append]
    omega

end Transaction

theorem Header.inverts_reader : Header.reader.Inverts Header.encode fun _ => True := by
  intro s h rest
  simp only [Header.reader, bind_eq_ok_iff, inverts_readWord _ _ _, inverts_readDigest _ _ _,
    pure_eq_ok_iff, true_and]
  constructor
  · rintro ⟨version, _, rfl, parent, _, rfl, merkleRoot, _, rfl, time, _, rfl, target, _, rfl,
      nonce, _, rfl, rfl, rfl⟩
    simp only [encode, List.append_assoc]
    rfl
  · rintro rfl
    refine ⟨h.version.toUInt32, _, ?_, h.parent, _, rfl, h.merkleRoot, _, rfl, h.time, _, rfl,
      h.target, _, rfl, h.nonce, rest, rfl, by simp, rfl⟩
    simp only [encode, List.append_assoc]

namespace Block

/-- The count of transactions is a 64-bit number, and each of them fits. -/
def Fits (b : Block) : Prop := b.transactions.length < 2 ^ 64 ∧ ∀ t ∈ b.transactions, t.Fits

theorem inverts_reader : reader.Inverts encode Fits := by
  intro s b rest
  simp only [reader, bind_eq_ok_iff, Header.inverts_reader _ _ _,
    inverts_readVector Transaction.inverts_reader _ _ _, pure_eq_ok_iff, true_and]
  constructor
  · rintro ⟨header, _, rfl, transactions, _, ⟨hfits, rfl⟩, rfl, rfl⟩
    exact ⟨hfits, by rw [encode, List.append_assoc]⟩
  · rintro ⟨hfits, rfl⟩
    exact ⟨b.header, _, by rw [encode, List.append_assoc], b.transactions, rest, ⟨hfits, rfl⟩, rfl,
      rfl⟩

theorem fits_of_length_le {b : Block} (h : b.encode.length ≤ vectorLimit) : b.Fits := by
  have hlimit : vectorLimit = 4000000 := rfl
  simp only [encode, encodeVector, List.length_append] at h
  have hcount : b.transactions.length ≤ (b.transactions.flatMap Transaction.encode).length :=
    length_le_length_flatMap Transaction.length_encode_pos _
  refine ⟨by omega, fun t ht => Transaction.fits_of_length_le ?_⟩
  have hpart : t.encode.length ≤ (b.transactions.flatMap Transaction.encode).length :=
    length_le_of_mem_flatMap ht
  omega

end Block

end ChainFeed
