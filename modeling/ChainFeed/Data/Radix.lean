/-!
# Digits

The digits of a number in a base, highest first and without leading zeros: zero has none.
`ofDigits` is the number that digits stand for, and undoes `digits`.
-/

namespace ChainFeed.Radix

def ofDigits (base : Nat) (digits : List Nat) : Nat := digits.foldl (fun n d => base * n + d) 0

/-- There are no digits in a base below two. -/
def digits (base n : Nat) : List Nat :=
  if _h : n = 0 ∨ base < 2 then [] else digits base (n / base) ++ [n % base]
  termination_by n
  decreasing_by exact Nat.div_lt_self (by omega) (by omega)

@[simp] theorem digits_zero (base : Nat) : digits base 0 = [] := by
  rw [digits]
  simp

theorem digits_of_pos {base n : Nat} (hb : 2 ≤ base) (hn : 0 < n) :
    digits base n = digits base (n / base) ++ [n % base] := by
  rw [digits]
  rw [dif_neg (by omega)]

@[simp] theorem ofDigits_append_singleton (base : Nat) (l : List Nat) (d : Nat) :
    ofDigits base (l ++ [d]) = base * ofDigits base l + d := by
  simp [ofDigits]

theorem ofDigits_digits {base : Nat} (hb : 2 ≤ base) (n : Nat) :
    ofDigits base (digits base n) = n := by
  induction n using Nat.strongRecOn with
  | ind n ih =>
    by_cases hn : n = 0
    · subst hn
      simp [ofDigits]
    · rw [digits_of_pos hb (by omega), ofDigits_append_singleton,
        ih (n / base) (Nat.div_lt_self (by omega) (by omega))]
      exact Nat.div_add_mod n base

theorem lt_of_mem_digits {base n d : Nat} (h : d ∈ digits base n) : d < base := by
  induction n using Nat.strongRecOn with
  | ind n ih =>
    rw [digits] at h
    split at h
    · simp at h
    · next hn =>
      rcases List.mem_append.1 h with h | h
      · exact ih (n / base) (Nat.div_lt_self (by omega) (by omega)) h
      · rw [List.mem_singleton.1 h]
        exact Nat.mod_lt _ (by omega)

/-- There are no leading zeros. -/
theorem head?_digits (base n : Nat) : (digits base n).head? ≠ some 0 := by
  induction n using Nat.strongRecOn with
  | ind n ih =>
    by_cases hn : n = 0 ∨ base < 2
    · rw [digits, dif_pos hn]
      simp
    · rw [digits_of_pos (by omega) (by omega)]
      rcases Nat.eq_zero_or_pos (n / base) with hsmall | hpos
      · have hmod : n % base = n := Nat.mod_eq_of_lt ((Nat.div_eq_zero_iff_lt (by omega)).1 hsmall)
        rw [hsmall, digits_zero, List.nil_append, hmod, List.head?_singleton]
        simp
        omega
      · have hne : digits base (n / base) ≠ [] := by
          rw [digits_of_pos (by omega) hpos]
          simp
        obtain ⟨d, hd⟩ : ∃ d, (digits base (n / base)).head? = some d :=
          Option.ne_none_iff_exists'.1 (by rwa [Ne, List.head?_eq_none_iff])
        rw [List.head?_append, hd, Option.some_or, ← hd]
        exact ih (n / base) (Nat.div_lt_self (by omega) (by omega))

theorem digits_ofDigits {base : Nat} (hb : 2 ≤ base) {l : List Nat} (hl : ∀ d ∈ l, d < base)
    (hz : l.head? ≠ some 0) : digits base (ofDigits base l) = l := by
  obtain ⟨n, hn⟩ : ∃ n, l.length = n := ⟨_, rfl⟩
  induction n generalizing l with
  | zero =>
    rw [List.length_eq_zero_iff.1 hn]
    simp [ofDigits]
  | succ n ih =>
    have hne : l ≠ [] := by
      rintro rfl
      simp at hn
    obtain ⟨m, d, rfl⟩ : ∃ m d, l = m ++ [d] :=
      ⟨l.dropLast, l.getLast hne, (List.dropLast_concat_getLast hne).symm⟩
    have hd : d < base := hl d (by simp)
    have hm : digits base (ofDigits base m) = m := by
      refine ih (fun e he => hl e (by simp [he])) ?_ (by simpa using hn)
      cases m with
      | nil => simp
      | cons a m => simpa using hz
    have hdiv : (base * ofDigits base m + d) / base = ofDigits base m := by
      rw [Nat.mul_add_div (by omega), Nat.div_eq_of_lt hd]
      rfl
    have hmod : (base * ofDigits base m + d) % base = d := by
      rw [Nat.mul_add_mod, Nat.mod_eq_of_lt hd]
    have hpos : 0 < base * ofDigits base m + d := by
      rcases Nat.eq_zero_or_pos (base * ofDigits base m + d) with h0 | h0
      · exfalso
        have hd0 : d = 0 := by omega
        have hm0 : ofDigits base m = 0 := by
          rcases Nat.mul_eq_zero.1 (by omega : base * ofDigits base m = 0) with h | h
          · omega
          · exact h
        rw [hm0, digits_zero] at hm
        subst hm hd0
        simp at hz
      · exact h0
    rw [ofDigits_append_singleton, digits_of_pos hb hpos, hdiv, hmod, hm]

end ChainFeed.Radix
