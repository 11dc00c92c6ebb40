import Mathlib.Algebra.Group.Nat.Defs
import Mathlib.Data.List.Nodup

/-!
# Numbering in words

Numbers that are given out one after the other in a word of 64 bits. When the word is full they
begin again at zero, so as many are told apart as the word has values.
-/

namespace ChainFeed

/-- The words from `first` on, `n` of them. -/
def wordsFrom (first n : Nat) : List UInt64 := (List.range' first n).map Nat.toUInt64

theorem wordsFrom_succ (first n : Nat) :
    wordsFrom first (n + 1) = first.toUInt64 :: wordsFrom (first + 1) n := by
  rw [wordsFrom, List.range'_succ, List.map_cons]
  rfl

theorem toUInt64_succ (n : Nat) : (n + 1).toUInt64 = n.toUInt64 + 1 := by
  apply UInt64.toNat_inj.1
  simp

theorem toNat_wordsFrom {first n : Nat} (h : first + n ≤ 2 ^ 64) :
    (wordsFrom first n).map UInt64.toNat = List.range' first n := by
  rw [wordsFrom, List.map_map]
  conv_rhs => rw [← List.map_id (List.range' first n)]
  refine List.map_congr_left fun k hk => ?_
  have hlt : k < 2 ^ 64 := by
    obtain ⟨i, hi, rfl⟩ := List.mem_range'.1 hk
    omega
  exact Nat.mod_eq_of_lt hlt

/-- The word that comes as many places after the first as a word has values is the first again. -/
theorem nodup_wordsFrom_iff (first n : Nat) : (wordsFrom first n).Nodup ↔ n ≤ 2 ^ 64 := by
  constructor
  · intro hnodup
    by_contra hmany
    have hlong : 2 ^ 64 < (wordsFrom first n).length := by
      rw [wordsFrom, List.length_map, List.length_range']
      exact Nat.lt_of_not_le hmany
    have hagain : (wordsFrom first n)[2 ^ 64] = (wordsFrom first n)[0] := by
      apply UInt64.toNat_inj.1
      simp [wordsFrom]
    cases hnodup.getElem_inj_iff.1 hagain
  · intro hfew
    refine List.Nodup.map_on (fun a ha b hb hab => ?_) List.nodup_range'
    have hmod : a % 2 ^ 64 = b % 2 ^ 64 := congrArg UInt64.toNat hab
    obtain ⟨i, hi, rfl⟩ := List.mem_range'.1 ha
    obtain ⟨j, hj, rfl⟩ := List.mem_range'.1 hb
    omega

end ChainFeed
