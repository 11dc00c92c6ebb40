import ChainFeed.Text.Decimal

/-!
# What a decimal text says

The number that a text stands for is the value of its digits; whether it is read does not depend on
where in the text it would become too large, only on whether it does.
-/

namespace ChainFeed.Text

/-- At least one digit, with the value of all of them. -/
def IsNumeral (digits : List Char) (n : Nat) : Prop :=
  digits ≠ [] ∧ (∀ c ∈ digits, c.isDigit = true) ∧ Nat.ofDigitChars 10 digits 0 = n

/-- A numeral, perhaps after a plus sign. -/
def IsDecimal (s : String) (n : Nat) : Prop :=
  IsNumeral s.toList n ∨ ∃ digits, s.toList = '+' :: digits ∧ IsNumeral digits n

theorem isDigit_iff {c : Char} : c.isDigit = true ↔ '0' ≤ c ∧ c ≤ '9' := by
  simp [Char.isDigit, Char.le_def]

theorem not_isNumeral_plus {digits : List Char} {n : Nat} : ¬ IsNumeral ('+' :: digits) n := by
  rintro ⟨-, hdigits, -⟩
  exact absurd (hdigits '+' (by simp)) (by decide)

theorem le_ofDigitChars (digits : List Char) (value : Nat) :
    value ≤ Nat.ofDigitChars 10 digits value := by
  induction digits generalizing value with
  | nil => simp
  | cons c digits ih =>
    rw [Nat.ofDigitChars_cons]
    have := ih (10 * value + (c.toNat - '0'.toNat))
    omega

theorem readDigits_eq_ok_iff {value n : Nat} (hvalue : value < UInt64.size) (digits : List Char) :
    readDigits value digits = .ok n ↔
      (∀ c ∈ digits, c.isDigit = true) ∧ Nat.ofDigitChars 10 digits value = n ∧
        n < UInt64.size := by
  induction digits generalizing value with
  | nil =>
    simp only [readDigits, Nat.ofDigitChars_nil, Except.ok.injEq]
    constructor
    · rintro rfl
      exact ⟨by simp, rfl, hvalue⟩
    · exact fun h => h.2.1
  | cons c digits ih =>
    rw [readDigits, List.forall_mem_cons, isDigit_iff, Nat.ofDigitChars_cons]
    by_cases hc : '0' ≤ c ∧ c ≤ '9'
    · rw [if_pos hc]
      by_cases hnext : 10 * value + (c.toNat - '0'.toNat) < UInt64.size
      · simp only [if_pos hnext, ih hnext, hc, true_and]
      · have hlarge := le_ofDigitChars digits (10 * value + (c.toNat - '0'.toNat))
        simp only [if_neg hnext, reduceCtorEq, false_iff]
        omega
    · simp [hc]

theorem map_readDigits_eq_ok_iff {digits : List Char} (hne : digits ≠ []) {n : UInt64} :
    (readDigits 0 digits).map Nat.toUInt64 = .ok n ↔ IsNumeral digits n.toNat := by
  have hvalue (m : Nat) := readDigits_eq_ok_iff (n := m) (by decide : 0 < UInt64.size) digits
  constructor
  · intro h
    cases hread : readDigits 0 digits with
    | error fault =>
      rw [hread] at h
      cases h
    | ok m =>
      obtain ⟨hdigits, hm, hlt⟩ := (hvalue m).1 hread
      rw [hread] at h
      obtain rfl : m.toUInt64 = n := Except.ok.inj h
      exact ⟨hne, hdigits, hm.trans (Nat.mod_eq_of_lt hlt).symm⟩
  · rintro ⟨-, hdigits, hn⟩
    rw [(hvalue n.toNat).2 ⟨hdigits, hn, n.toNat_lt⟩, Except.map, Nat.toUInt64_eq,
      UInt64.ofNat_toNat]

theorem readUnsigned_eq_ok_iff {s : String} {n : UInt64} :
    readUnsigned s = .ok n ↔ IsDecimal s n.toNat := by
  unfold readUnsigned IsDecimal
  split
  · next hs => simp [hs, IsNumeral]
  · next hs => simp [hs, IsNumeral]
  · next digits hne hs =>
    rw [hs, map_readDigits_eq_ok_iff fun h => hne (by rw [h])]
    simp [not_isNumeral_plus]
  · next hne _ hplus =>
    rw [map_readDigits_eq_ok_iff hne]
    refine ⟨.inl, fun h => h.elim id ?_⟩
    rintro ⟨digits, hdigits, -⟩
    exact absurd hdigits (hplus digits)

end ChainFeed.Text
