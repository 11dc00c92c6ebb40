import ChainFeed.Address.Base58
import ChainFeed.Data.Outcome

/-!
# Texts in base 58

Changing the base of a number and changing it back gives the same digits, with the zeros in front.
So only one text stands for the bytes that are read from it.
-/

namespace ChainFeed.Base58

section rebase
variable {source target : Nat} {digits : List Nat}

theorem exists_zeros_append (digits : List Nat) :
    ∃ zeros rest, digits = List.replicate zeros 0 ++ rest ∧ rest.head? ≠ some 0 := by
  induction digits with
  | nil => exact ⟨0, [], rfl, by simp⟩
  | cons d digits ih =>
    by_cases hd : d = 0
    · obtain ⟨zeros, rest, rfl, hrest⟩ := ih
      exact ⟨zeros + 1, rest, by rw [hd]; rfl, hrest⟩
    · exact ⟨0, d :: digits, rfl, by simpa using hd⟩

theorem rebase_zeros_append (zeros : Nat) (hdigits : digits.head? ≠ some 0) :
    rebase source target (List.replicate zeros 0 ++ digits) =
      List.replicate zeros 0 ++ Radix.digits target (Radix.ofDigits source digits) := by
  have hnone : digits.takeWhile (· == 0) = [] ∧ digits.dropWhile (· == 0) = digits := by
    cases digits with
    | nil => exact ⟨rfl, rfl⟩
    | cons d digits =>
      have hd : (d == 0) = false := by simpa using hdigits
      exact ⟨List.takeWhile_cons_of_neg (by simp [hd]), List.dropWhile_cons_of_neg (by simp [hd])⟩
  rw [rebase, List.takeWhile_append_of_pos (by simp), List.dropWhile_append_of_pos (by simp),
    hnone.1, hnone.2, List.append_nil]

theorem lt_of_mem_rebase (htarget : 2 ≤ target) {d : Nat} (h : d ∈ rebase source target digits) :
    d < target := by
  obtain ⟨zeros, rest, rfl, hrest⟩ := exists_zeros_append digits
  rw [rebase_zeros_append zeros hrest] at h
  rcases List.mem_append.1 h with hzero | hdigit
  · rw [List.eq_of_mem_replicate hzero]
    omega
  · exact Radix.lt_of_mem_digits hdigit

theorem rebase_rebase (hsource : 2 ≤ source) (htarget : 2 ≤ target)
    (hdigits : ∀ d ∈ digits, d < source) :
    rebase target source (rebase source target digits) = digits := by
  obtain ⟨zeros, rest, rfl, hrest⟩ := exists_zeros_append digits
  rw [rebase_zeros_append zeros hrest, rebase_zeros_append zeros (Radix.head?_digits _ _),
    Radix.ofDigits_digits htarget,
    Radix.digits_ofDigits hsource (fun d hd => hdigits d (List.mem_append_right _ hd)) hrest]

end rebase

theorem digitValue?_eq_some {c : Char} {d : Nat} (h : digitValue? c = some d) :
    d < 58 ∧ digitChar d = c := by
  obtain ⟨hd, hc, _⟩ := List.findIdx?_eq_some_iff_getElem.1 h
  have hlt : d < 58 := hd
  refine ⟨hlt, ?_⟩
  rw [digitChar, List.getD_eq_getElem?_getD, List.getElem?_eq_getElem hd, Option.getD_some]
  exact eq_of_beq hc

theorem encode_of_decode? {text : List Char} {bytes : List UInt8} (h : decode? text = some bytes) :
    encode bytes = text := by
  obtain ⟨digits, hdigits, rfl⟩ := Option.map_eq_some_iff.1 h
  have hlt : ∀ d ∈ digits, d < 58 :=
    Outcome.forall_of_mapM (fun c d hd => (digitValue?_eq_some hd).1) hdigits
  have htext : digits.map digitChar = text.map id :=
    Outcome.map_of_mapM (fun c d hd => (digitValue?_eq_some hd).2) hdigits
  have hbytes : ((rebase 58 256 digits).map Nat.toUInt8).map UInt8.toNat =
      rebase 58 256 digits := by
    have htoNat (d : Nat) (hd : d ∈ rebase 58 256 digits) : d.toUInt8.toNat = d := by
      have hlt' : d < 256 := lt_of_mem_rebase (by omega) hd
      exact UInt8.toNat_ofNat_of_lt' hlt'
    rw [List.map_map]
    exact (List.map_congr_left htoNat).trans (List.map_id _)
  rw [encode, hbytes, rebase_rebase (by omega) (by omega) hlt, htext,
    List.map_id]

theorem encodeChecked_of_decodeChecked? {text : List Char} {payload : List UInt8}
    (h : decodeChecked? text = some payload) : encodeChecked payload = text := by
  unfold decodeChecked? at h
  cases hbytes : decode? text with
  | none =>
    rw [hbytes] at h
    cases h
  | some bytes =>
    rw [hbytes] at h
    obtain ⟨hchecked, hpayload⟩ := Option.ite_none_right_eq_some.1 h
    obtain rfl := Option.some.inj hpayload
    rw [Bool.and_eq_true, beq_iff_eq] at hchecked
    rw [encodeChecked, ← hchecked.2, List.take_append_drop, encode_of_decode? hbytes]

end ChainFeed.Base58
