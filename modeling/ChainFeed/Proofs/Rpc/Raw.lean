import ChainFeed.Proofs.Consensus.Transaction
import ChainFeed.Rpc.Raw

/-!
# Raw transactions and blocks are faithful

The hexadecimal text of a serialization is read back as the value that was serialized, and a text
that is read is, but for the case of its digits, the text of what it is read as.
-/

namespace ChainFeed

namespace Hex

/-- A digit is read as the number whose lower-case digit it is. -/
theorem digitChar_of_digitValue? {c : Char} {n : Nat} (h : digitValue? c = some n) :
    n < 16 ∧ Nat.digitChar n = c.toLower := by
  have hascii : ∀ k < 103, (digitValue? (Char.ofNat k)).all (fun n =>
      decide (n < 16 ∧ Nat.digitChar n = (Char.ofNat k).toLower)) = true := by
    decide +kernel
  have hsmall : c.toNat < 103 := by
    refine Nat.lt_of_not_ge fun hlarge => ?_
    have habove {d : Char} (hd : d.toNat < 103) : ¬ c ≤ d := by
      intro hle
      have hval : c.toNat ≤ d.toNat := UInt32.le_iff_toNat_le.1 hle
      omega
    rw [digitValue?, if_neg fun hc => habove (by decide) hc.2,
      if_neg fun hc => habove (by decide) hc.2, if_neg fun hc => habove (by decide) hc.2] at h
    cases h
  have hc := hascii c.toNat hsmall
  rw [Char.ofNat_toNat, h, Option.all_some, decide_eq_true_eq] at hc
  exact hc

/-- What is read is written again in lower case. -/
theorem encode_of_decode? {text : List Char} {bytes : List UInt8}
    (h : decode? text = some bytes) : encode bytes = text.map Char.toLower := by
  fun_induction decode? text generalizing bytes with
  | case1 => simp_all
  | case2 => simp at h
  | case3 c d rest high low bytes' hrest hhigh hlow ih =>
    obtain rfl := Option.some.inj h
    obtain ⟨hhighlt, hc⟩ := digitChar_of_digitValue? hhigh
    obtain ⟨hlowlt, hd⟩ := digitChar_of_digitValue? hlow
    have hbyte : (16 * high + low).toUInt8.toNat = 16 * high + low := by
      simp; omega
    have hdiv : (16 * high + low) / 16 = high := by omega
    have hmod : (16 * high + low) % 16 = low := by omega
    rw [encode_cons, encodeByte, hbyte, hdiv, hmod, hc, hd, ih hrest]
    rfl
  | case4 => simp at h

end Hex

namespace Rpc

open Consensus

section
variable {α : Type} {r : Reader α} {write : α → List UInt8} {fits : α → Prop}

theorem readRaw_eq_ok_iff (hr : r.Inverts write fits) {s : String} {a : α} :
    readRaw r s = .ok a ↔ fits a ∧ Hex.decode? s.toList = some (write a) := by
  unfold readRaw Hex.decode
  cases hs : Hex.decode? s.toList with
  | none => simp
  | some bytes =>
    dsimp only
    rw [Option.some.injEq, ← hr.whole_eq_ok_iff]
    cases r.whole bytes with
    | error fault => simp
    | ok b => simp

theorem readRaw_render (hr : r.Inverts write fits) {a : α} (ha : fits a) :
    readRaw r (Hex.render (write a)) = .ok a := by
  rw [readRaw_eq_ok_iff hr, Hex.render, String.toList_ofList, Hex.decode?_encode]
  exact ⟨ha, rfl⟩

theorem render_of_readRaw (hr : r.Inverts write fits) {s : String} {a : α}
    (h : readRaw r s = .ok a) : Hex.render (write a) = s.toLower := by
  obtain ⟨_, hs⟩ := (readRaw_eq_ok_iff hr).1 h
  have hlower : s.toLower = s.map Char.toLower := rfl
  apply String.toList_inj.1
  rw [Hex.render, String.toList_ofList, Hex.encode_of_decode? hs, hlower, String.toList_map]

theorem eq_of_whole (hr : r.Inverts write fits) {l : List UInt8} {a : α}
    (h : r.whole l = .ok a) : l = write a :=
  (hr.whole_eq_ok_iff.1 h).2

end

/-- A transaction or a block whose serialization takes at most 4,000,000 bytes is read back from
the hexadecimal text of it. Whatever text is read is, in lower case, the text of what it is read
as. And bytes are read as a value only if they are the serialization of that value, the whole of
it: no two byte strings are read as one value, and nothing is left over. -/
theorem raw_form_is_faithful :
    (∀ t : Transaction, t.encode.length ≤ 4000000 →
      readRaw Transaction.reader (Hex.render t.encode) = .ok t) ∧
    (∀ b : Block, b.encode.length ≤ 4000000 →
      readRaw Block.reader (Hex.render b.encode) = .ok b) ∧
    (∀ (s : String) (t : Transaction), readRaw Transaction.reader s = .ok t →
      Hex.render t.encode = s.toLower) ∧
    (∀ (s : String) (b : Block), readRaw Block.reader s = .ok b →
      Hex.render b.encode = s.toLower) ∧
    (∀ (l : List UInt8) (t : Transaction), Transaction.reader.whole l = .ok t → l = t.encode) ∧
    ∀ (l : List UInt8) (b : Block), Block.reader.whole l = .ok b → l = b.encode := by
  refine ⟨fun t ht => ?_, fun b hb => ?_, fun s t h => ?_, fun s b h => ?_, fun l t h => ?_,
    fun l b h => ?_⟩
  · exact readRaw_render Transaction.inverts_reader (Transaction.fits_of_length_le ht)
  · exact readRaw_render Block.inverts_reader (Block.fits_of_length_le hb)
  · exact render_of_readRaw Transaction.inverts_reader h
  · exact render_of_readRaw Block.inverts_reader h
  · exact eq_of_whole Transaction.inverts_reader h
  · exact eq_of_whole Block.inverts_reader h

/-- A transaction without inputs, whose plain form would start like the mark. -/
def sampleInputless : Transaction := ⟨2, [], [⟨1000, [0x51]⟩], 0xab⟩

/-- A transaction with two inputs, one of which has a witness. -/
def sampleWitnessed : Transaction where
  version := 2
  inputs := [⟨⟨.zero, 0⟩, [], 0xffffffff, [[], [1, 2]]⟩, ⟨⟨.zero, 1⟩, [0x51], 0, []⟩]
  outputs := []
  lockTime := 0

def sampleRawBlock : Block :=
  ⟨⟨1, .zero, .zero, 0, 0x207fffff, 0⟩, [sampleInputless, sampleWitnessed]⟩

theorem inputless_transaction_is_read_back :
    readRaw Transaction.reader (Hex.render sampleInputless.encode) = .ok sampleInputless ∧
      readRaw Block.reader (Hex.render sampleRawBlock.encode) = .ok sampleRawBlock ∧
      Hex.render sampleInputless.encode = "0200000000010001e8030000000000000151ab000000" ∧
      Transaction.reader.whole (sampleInputless.encode ++ [0]) ≠ .ok sampleInputless := by
  obtain ⟨htransaction, hblock, htext, _, hbytes, _⟩ := raw_form_is_faithful
  refine ⟨htransaction _ (by decide), hblock _ (by decide +kernel), ?_, fun h => ?_⟩
  · have hread : readRaw Transaction.reader "0200000000010001E8030000000000000151AB000000" =
        .ok sampleInputless :=
      (readRaw_eq_ok_iff Transaction.inverts_reader).2
        ⟨Transaction.fits_of_length_le (by decide), by decide +kernel⟩
    rw [htext _ _ hread]
    decide +kernel
  · have hlength := congrArg List.length (hbytes _ _ h)
    rw [List.length_append] at hlength
    simp at hlength

end Rpc

end ChainFeed
