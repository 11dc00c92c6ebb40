import ChainFeed.Consensus.Transaction
import Mathlib.Algebra.Group.Nat.Defs

/-!
# Readers that take back what has been written

A reader inverts a form if it reads a value with some rest exactly where the input is the form of
that value followed by the rest. So every value that fits is read back, and nothing else is read:
no value has two forms, and no byte is passed over.
-/

namespace ChainFeed.Consensus

namespace Reader

variable {α : Type}

/-- The reader takes from the front what `write` writes of the values that fit, and nothing else. -/
def Inverts (r : Reader α) (write : α → List UInt8) (fits : α → Prop) : Prop :=
  ∀ s a rest, r s = .ok (a, rest) ↔ fits a ∧ s = write a ++ rest

theorem byte_eq_ok_iff {s rest : List UInt8} {b : UInt8} :
    byte s = .ok (b, rest) ↔ s = b :: rest := by
  cases s with
  | nil => simp [byte]
  | cons b' rest' => simp [byte]

theorem bytes_eq_ok_iff {n : Nat} {s l rest : List UInt8} :
    bytes n s = .ok (l, rest) ↔ l.length = n ∧ s = l ++ rest := by
  unfold bytes
  constructor
  · intro h
    split at h
    · next p hp =>
      cases h
      obtain ⟨hs, hl⟩ := eq_append_of_splitExactly hp
      exact ⟨hl, hs⟩
    · cases h
  · rintro ⟨rfl, rfl⟩
    rw [splitExactly_append]

/-- Bytes are the number that they stand for, written in their count. -/
theorem bytes_eq_ok_iff_number {width : Nat} {s l rest : List UInt8} :
    bytes width s = .ok (l, rest) ↔ ∃ n, n < Nat.pow 256 width ∧
      l = LittleEndian.encode width n ∧ s = LittleEndian.encode width n ++ rest := by
  rw [bytes_eq_ok_iff]
  constructor
  · rintro ⟨rfl, rfl⟩
    refine ⟨LittleEndian.decode l, LittleEndian.decode_lt l, ?_, ?_⟩
    · rw [LittleEndian.encode_decode]
    · rw [LittleEndian.encode_decode]
  · rintro ⟨n, _, rfl, rfl⟩
    exact ⟨LittleEndian.length_encode width n, rfl⟩

theorem pure_eq_ok_iff {a b : α} {s rest : List UInt8} :
    (pure a : Reader α) s = .ok (b, rest) ↔ a = b ∧ s = rest := by
  rw [pure_apply, Except.ok.injEq, Prod.mk.injEq]

theorem times_eq_ok_iff {r : Reader α} {write : α → List UInt8} {fits : α → Prop}
    (hr : r.Inverts write fits) {n : Nat} {s rest : List UInt8} {l : List α} :
    r.times n s = .ok (l, rest) ↔
      l.length = n ∧ (∀ a ∈ l, fits a) ∧ s = l.flatMap write ++ rest := by
  induction n generalizing s l with
  | zero =>
    rw [times, pure_eq_ok_iff, List.length_eq_zero_iff]
    constructor
    · rintro ⟨rfl, rfl⟩
      exact ⟨rfl, fun _ ha => (nomatch ha), rfl⟩
    · rintro ⟨rfl, _, rfl⟩
      exact ⟨rfl, rfl⟩
  | succ n ih =>
    simp only [times, bind_eq_ok_iff, pure_eq_ok_iff]
    constructor
    · rintro ⟨a, mid, ha, l, _, hl, rfl, rfl⟩
      obtain ⟨hfits, rfl⟩ := (hr _ _ _).1 ha
      obtain ⟨hlength, hall, rfl⟩ := ih.1 hl
      refine ⟨by rw [List.length_cons, hlength], List.forall_mem_cons.2 ⟨hfits, hall⟩, ?_⟩
      rw [List.flatMap_cons, List.append_assoc]
    · rintro ⟨hlength, hall, rfl⟩
      cases l with
      | nil => cases hlength
      | cons a l =>
        obtain ⟨hfits, hrest⟩ := List.forall_mem_cons.1 hall
        refine ⟨a, l.flatMap write ++ rest, (hr _ _ _).2 ⟨hfits, ?_⟩, l, rest, ?_, rfl, rfl⟩
        · rw [List.flatMap_cons, List.append_assoc]
        · exact ih.2 ⟨Nat.succ.inj hlength, hrest, rfl⟩

/-- A reader of a whole input accepts the form of one value and nothing behind it. -/
theorem Inverts.whole_eq_ok_iff {r : Reader α} {write : α → List UInt8} {fits : α → Prop}
    (hr : r.Inverts write fits) {s : List UInt8} {a : α} :
    r.whole s = .ok a ↔ fits a ∧ s = write a := by
  rw [Reader.whole_eq_ok_iff, hr s a [], List.append_nil]

end Reader

open Reader

namespace CompactSize

theorem readAtLeast_eq_ok_iff {width least n : Nat} {s rest : List UInt8} :
    readAtLeast width least s = .ok (n, rest) ↔
      least ≤ n ∧ n < Nat.pow 256 width ∧ s = LittleEndian.encode width n ++ rest := by
  simp only [readAtLeast, bind_eq_ok_iff, bytes_eq_ok_iff_number]
  constructor
  · rintro ⟨_, mid, ⟨m, hm, rfl, hs⟩, hread⟩
    rw [LittleEndian.decode_encode hm] at hread
    split at hread
    · cases hread
    · next hleast =>
      obtain ⟨rfl, rfl⟩ := pure_eq_ok_iff.1 hread
      exact ⟨Nat.not_lt.1 hleast, hm, hs⟩
  · rintro ⟨hleast, hn, hs⟩
    refine ⟨_, rest, ⟨n, hn, rfl, hs⟩, ?_⟩
    rw [LittleEndian.decode_encode hn, if_neg (Nat.not_lt.2 hleast)]
    rfl

theorem encode_of_reader {s rest : List UInt8} {n : Nat} (h : reader s = .ok (n, rest)) :
    n < 2 ^ 64 ∧ s = encode n ++ rest := by
  simp only [reader, bind_eq_ok_iff, byte_eq_ok_iff] at h
  obtain ⟨b, mid, rfl, h⟩ := h
  by_cases h2 : b = 0xfd
  · rw [if_pos h2, readAtLeast_eq_ok_iff] at h
    obtain ⟨hleast, hlt, rfl⟩ := h
    have hlt : n < 65536 := hlt
    rw [encode, if_neg (by omega), if_pos (by exact hlt), h2]
    exact ⟨by omega, rfl⟩
  by_cases h4 : b = 0xfe
  · rw [if_neg h2, if_pos h4, readAtLeast_eq_ok_iff] at h
    obtain ⟨hleast, hlt, rfl⟩ := h
    have hleast : 65536 ≤ n := hleast
    have hlt : n < 4294967296 := hlt
    rw [encode, if_neg (by omega), if_neg (by exact Nat.not_lt.2 hleast), if_pos (by exact hlt), h4]
    exact ⟨by omega, rfl⟩
  by_cases h8 : b = 0xff
  · rw [if_neg h2, if_neg h4, if_pos h8, readAtLeast_eq_ok_iff] at h
    obtain ⟨hleast, hlt, rfl⟩ := h
    have hleast : 4294967296 ≤ n := hleast
    have hlt : n < 2 ^ 64 := hlt
    have hbig : ¬ n < UInt16.size := Nat.not_lt.2 (Nat.le_trans (by decide) hleast)
    rw [encode, if_neg (by omega), if_neg hbig, if_neg (by exact Nat.not_lt.2 hleast), h8]
    exact ⟨hlt, rfl⟩
  · rw [if_neg h2, if_neg h4, if_neg h8, pure_eq_ok_iff] at h
    obtain ⟨rfl, rfl⟩ := h
    have hb : b.toNat < 256 := b.toNat_lt
    have hne {x : UInt8} (hx : b ≠ x) : b.toNat ≠ x.toNat := fun he => hx (UInt8.toNat_inj.1 he)
    have h2 : b.toNat ≠ 253 := hne h2
    have h4 : b.toNat ≠ 254 := hne h4
    have h8 : b.toNat ≠ 255 := hne h8
    rw [encode, if_pos (by omega)]
    exact ⟨by omega, by simp⟩

theorem reader_encode {n : Nat} (hn : n < 2 ^ 64) (rest : List UInt8) :
    reader (encode n ++ rest) = .ok (n, rest) := by
  simp only [reader, bind_eq_ok_iff, byte_eq_ok_iff]
  unfold encode
  split
  · next hsmall =>
    have hb : n.toUInt8.toNat = n := by simp; omega
    have hne {x : UInt8} (hx : n ≠ x.toNat) : n.toUInt8 ≠ x := fun he => hx (by rw [← he, hb])
    refine ⟨_, _, rfl, ?_⟩
    rw [if_neg (hne (by simp; omega)), if_neg (hne (by simp; omega)), if_neg (hne (by simp; omega)),
      hb]
    rfl
  · next hsmall =>
    split
    · next h16 =>
      refine ⟨0xfd, _, rfl, ?_⟩
      rw [if_pos rfl]
      exact readAtLeast_eq_ok_iff.2 ⟨Nat.not_lt.1 hsmall, h16, rfl⟩
    · next h16 =>
      split
      · next h32 =>
        refine ⟨0xfe, _, rfl, ?_⟩
        rw [if_neg (by decide), if_pos rfl]
        exact readAtLeast_eq_ok_iff.2 ⟨Nat.not_lt.1 h16, h32, rfl⟩
      · next h32 =>
        refine ⟨0xff, _, rfl, ?_⟩
        rw [if_neg (by decide), if_neg (by decide), if_pos rfl]
        exact readAtLeast_eq_ok_iff.2 ⟨Nat.not_lt.1 h32, hn, rfl⟩

theorem inverts_reader : reader.Inverts encode (· < 2 ^ 64) := by
  intro s n rest
  constructor
  · exact encode_of_reader
  · rintro ⟨hn, rfl⟩
    exact reader_encode hn rest

theorem width_pos (n : Nat) : 0 < width n := by
  unfold width
  repeat' split
  all_goals omega

end CompactSize

theorem inverts_readWord : readWord.Inverts encodeWord fun _ => True := by
  intro s w rest
  simp only [readWord, bind_eq_ok_iff, bytes_eq_ok_iff_number, pure_eq_ok_iff, true_and]
  constructor
  · rintro ⟨_, mid, ⟨n, hn, rfl, rfl⟩, rfl, rfl⟩
    have hword : n.toUInt32.toNat = n := by
      have hlt : n < 4294967296 := hn
      simp; omega
    rw [LittleEndian.decode_encode hn, encodeWord, hword]
  · rintro rfl
    have hw : w.toNat < Nat.pow 256 4 := w.toNat_lt
    refine ⟨_, rest, ⟨w.toNat, hw, rfl, rfl⟩, ?_, rfl⟩
    rw [LittleEndian.decode_encode hw]
    simp

theorem inverts_readDigest : readDigest.Inverts Digest.bytes fun _ => True := by
  intro s d rest
  simp only [readDigest, bind_eq_ok_iff, bytes_eq_ok_iff, true_and]
  constructor
  · rintro ⟨l, mid, ⟨hl, rfl⟩, hread⟩
    rw [Digest.ofBytes?, dif_pos hl] at hread
    obtain ⟨rfl, rfl⟩ := pure_eq_ok_iff.1 hread
    rfl
  · rintro rfl
    refine ⟨d.bytes, rest, ⟨d.length_bytes, rfl⟩, ?_⟩
    rw [Digest.ofBytes?_bytes]
    rfl

theorem inverts_readBlob : readBlob.Inverts encodeBlob (·.length < 2 ^ 64) := by
  intro s l rest
  simp only [readBlob, bind_eq_ok_iff, CompactSize.inverts_reader _ _ _, bytes_eq_ok_iff]
  constructor
  · rintro ⟨_, _, ⟨hn, rfl⟩, rfl, rfl⟩
    exact ⟨hn, by rw [encodeBlob, List.append_assoc]⟩
  · rintro ⟨hn, rfl⟩
    exact ⟨l.length, l ++ rest, ⟨hn, by rw [encodeBlob, List.append_assoc]⟩, rfl, rfl⟩

theorem inverts_readVector {α : Type} {r : Reader α} {write : α → List UInt8} {fits : α → Prop}
    (hr : r.Inverts write fits) : (readVector r).Inverts (encodeVector write)
      fun l => l.length < 2 ^ 64 ∧ ∀ a ∈ l, fits a := by
  intro s l rest
  simp only [readVector, bind_eq_ok_iff, CompactSize.inverts_reader _ _ _, times_eq_ok_iff hr]
  constructor
  · rintro ⟨_, _, ⟨hn, rfl⟩, rfl, hall, rfl⟩
    exact ⟨⟨hn, hall⟩, by rw [encodeVector, List.append_assoc]⟩
  · rintro ⟨⟨hn, hall⟩, rfl⟩
    exact ⟨l.length, l.flatMap write ++ rest, ⟨hn, by rw [encodeVector, List.append_assoc]⟩, rfl,
      hall, rfl⟩

end ChainFeed.Consensus
