import ChainFeed.Address.Bech32

/-!
# Checksums

The remainder is linear, so that six symbols behind a text add what they are to the remainder that
six zeros leave. The checksum is the difference to the remainder that a text should have, and no
other symbols make it up.
-/

namespace ChainFeed.Bech32

theorem ite_xor (p q : Bool) (r : BitVec 30) :
    (if (p ^^ q) then r else 0) = (if p then r else 0) ^^^ (if q then r else 0) := by
  cases p <;> cases q <;> simp

theorem reduction_xor (s t : Symbol) : reduction (s ^^^ t) = reduction s ^^^ reduction t := by
  simp only [reduction, BitVec.getLsbD_xor, ite_xor]
  ac_rfl

theorem shift_xor (r q : BitVec 30) : shift (r ^^^ q) = shift r ^^^ shift q := by
  simp only [shift, BitVec.shiftLeft_xor_distrib, BitVec.extractLsb'_xor, reduction_xor]
  ac_rfl

theorem absorb_xor (r q : BitVec 30) (s : Symbol) :
    absorb (r ^^^ q) s = absorb r 0 ^^^ absorb q s := by
  have hzero : absorb r 0 = shift r := BitVec.xor_zero
  rw [hzero, absorb, absorb, shift_xor, BitVec.xor_assoc]

/-- What symbols add does not depend on what is in front of them. -/
theorem foldl_absorb_xor (symbols : List Symbol) (r q : BitVec 30) :
    symbols.foldl absorb (r ^^^ q) =
      (List.replicate symbols.length 0).foldl absorb r ^^^ symbols.foldl absorb q := by
  induction symbols generalizing r q with
  | nil => rfl
  | cons s symbols ih =>
    rw [List.foldl_cons, absorb_xor, ih, List.length_cons, List.replicate_succ, List.foldl_cons,
      List.foldl_cons]

/-- With nothing to shift out, a symbol moves the others up and stands below them. -/
theorem absorb_of_room {r : BitVec 30} (hr : r.extractLsb' 25 5 = 0) (s : Symbol) :
    absorb r s = r <<< 5 ^^^ s.setWidth 30 := by
  have hreduction : reduction 0 = 0#30 := by decide
  rw [absorb, shift, hr, hreduction, BitVec.xor_zero]

theorem absorb_ushiftRight (r : BitVec 30) (n : Nat) :
    absorb (r >>> (n + 5)) (r.extractLsb' n 5) = r >>> n := by
  have hroom : (r >>> (n + 5)).extractLsb' 25 5 = 0 := by
    ext i hi
    have hbit : r.getLsbD (n + 5 + (25 + i)) = false := BitVec.getLsbD_of_ge _ _ (by omega)
    simpa using hbit
  rw [absorb_of_room hroom]
  ext i hi
  by_cases hlow : i < 5
  · simp [hlow]
  · have hindex : n + 5 + (i - 5) = n + i := by omega
    simp [hlow, hindex]

theorem foldl_absorb_split (r : BitVec 30) : (split r).foldl absorb 0#30 = r := by
  have hzero : 0#30 = r >>> 30 := by
    ext i hi
    simp
  simp only [split, List.foldl_cons, List.foldl_nil]
  rw [hzero, absorb_ushiftRight r 25, absorb_ushiftRight r 20, absorb_ushiftRight r 15,
    absorb_ushiftRight r 10, absorb_ushiftRight r 5, absorb_ushiftRight r 0,
    BitVec.ushiftRight_zero]

theorem extractLsb'_absorb_zero {r : BitVec 30} (hr : r.extractLsb' 25 5 = 0) (s : Symbol) :
    (absorb r s).extractLsb' 0 5 = s := by
  rw [absorb_of_room hr]
  ext i hi
  have hwidth : i < 30 := by omega
  simp [hi, hwidth]

theorem extractLsb'_absorb_add {r : BitVec 30} (hr : r.extractLsb' 25 5 = 0) (s : Symbol) {n : Nat}
    (hn : n ≤ 20) :
    (absorb r s).extractLsb' (n + 5) 5 = r.extractLsb' n 5 := by
  rw [absorb_of_room hr]
  ext i hi
  have hwidth : n + 5 + i < 30 := by omega
  have hhigh : ¬ n + 5 + i < 5 := by omega
  have hindex : n + 5 + i - 5 = n + i := by omega
  have hout : s.getLsbD (n + 5 + i) = false := BitVec.getLsbD_of_ge _ _ (by omega)
  have hbit : r.getLsbD (n + i) = r[n + i] := BitVec.getLsbD_eq_getElem (by omega)
  simp [hwidth, hhigh, hindex, hout, hbit]

/-- Up to six symbols, given from the last one, stand in the remainder as they are. -/
theorem extractLsb'_foldr_absorb {symbols : List Symbol} (hlength : symbols.length ≤ 6) {k : Nat}
    (hk : k ≤ 5) : (symbols.foldr (fun s r => absorb r s) 0#30).extractLsb' (5 * k) 5 =
      symbols.getD k 0 := by
  induction symbols generalizing k with
  | nil =>
    ext i hi
    simp
  | cons s symbols ih =>
    rw [List.length_cons] at hlength
    have hroom : (symbols.foldr (fun s r => absorb r s) 0#30).extractLsb' 25 5 = 0 := by
      rw [ih (by omega) (k := 5) (by omega), List.getD_eq_getElem?_getD,
        List.getElem?_eq_none (by omega), Option.getD_none]
    cases k with
    | zero => exact extractLsb'_absorb_zero hroom s
    | succ k =>
      rw [List.foldr_cons, List.getD_cons_succ, ← ih (by omega) (by omega), Nat.mul_succ,
        extractLsb'_absorb_add hroom s (by omega)]

theorem split_foldl_absorb {symbols : List Symbol} (hlength : symbols.length = 6) :
    split (symbols.foldl absorb 0#30) = symbols := by
  have hextract {k : Nat} (hk : k ≤ 5) :
      (symbols.foldl absorb 0#30).extractLsb' (5 * k) 5 = symbols.reverse.getD k 0 := by
    rw [← extractLsb'_foldr_absorb (by simp [hlength]) hk, List.foldr_reverse]
  have hsplit : split (symbols.foldl absorb 0#30) =
      [5, 4, 3, 2, 1, 0].map fun k => symbols.reverse.getD k 0 := by
    rw [split, List.map_cons, List.map_cons, List.map_cons, List.map_cons, List.map_cons,
      List.map_cons, List.map_nil, hextract (k := 5) (by omega), hextract (k := 4) (by omega),
      hextract (k := 3) (by omega), hextract (k := 2) (by omega), hextract (k := 1) (by omega),
      hextract (k := 0) (by omega)]
  match symbols, hlength with
  | [_, _, _, _, _, _], _ => exact hsplit

theorem remainder_append {tail : List Symbol} (hlength : tail.length = 6) (front : List Symbol) :
    remainder (front ++ tail) =
      remainder (front ++ List.replicate 6 0) ^^^ tail.foldl absorb 0#30 := by
  rw [remainder, remainder, List.foldl_append, List.foldl_append, ← hlength, ← foldl_absorb_xor,
    BitVec.xor_zero]

theorem xor_xor_cancel_left (r q : BitVec 30) : r ^^^ (r ^^^ q) = q := by
  rw [← BitVec.xor_assoc, BitVec.xor_self, BitVec.zero_xor]

theorem length_checksum (v : Variant) (hrp : List Char) (data : List Symbol) :
    (checksum v hrp data).length = 6 := rfl

/-- Only the checksum completes the remainder. -/
theorem remainder_eq_iff (v : Variant) (hrp : List Char) (data : List Symbol) {tail : List Symbol}
    (hlength : tail.length = 6) :
    remainder (expand hrp ++ data ++ tail) = v.remainder ↔ tail = checksum v hrp data := by
  rw [remainder_append hlength, checksum]
  constructor
  · intro h
    rw [← h, xor_xor_cancel_left, split_foldl_absorb hlength]
  · intro h
    rw [h, foldl_absorb_split, xor_xor_cancel_left]

theorem unchecked?_eq_some_iff {v : Variant} {hrp : List Char} {symbols data : List Symbol} :
    unchecked? v hrp symbols = some data ↔ symbols = data ++ checksum v hrp data := by
  unfold unchecked?
  constructor
  · intro h
    obtain ⟨hchecked, hdata⟩ := Option.ite_none_right_eq_some.1 h
    obtain rfl := Option.some.inj hdata
    rw [Bool.and_eq_true, decide_eq_true_iff, decide_eq_true_iff] at hchecked
    have hlength : (symbols.drop (symbols.length - 6)).length = 6 := by
      rw [List.length_drop]
      omega
    have htail := (remainder_eq_iff v hrp (symbols.take (symbols.length - 6)) hlength).1
      (by rw [List.append_assoc, List.take_append_drop, hchecked.2])
    rw [← htail, List.take_append_drop]
  · rintro rfl
    have hlength : (data ++ checksum v hrp data).length = data.length + 6 := by
      rw [List.length_append, length_checksum]
    have hremainder : remainder (expand hrp ++ (data ++ checksum v hrp data)) = v.remainder := by
      rw [← List.append_assoc]
      exact (remainder_eq_iff v hrp data (length_checksum v hrp data)).2 rfl
    simp [hremainder, hlength]

end ChainFeed.Bech32
