import Mathlib.Algebra.Group.Nat.Defs
import ChainFeed.Data.Bits

/-!
# Bits and numbers

The bits of a number stand for it, and bits that are cut into numbers of one width are found again
in these.
-/

namespace ChainFeed.Bits

theorem length_flatMap_ofNat {α : Type} (width : Nat) (f : α → Nat) (l : List α) :
    (l.flatMap fun a => ofNat width (f a)).length = width * l.length := by
  induction l with
  | nil => rfl
  | cons a l ih =>
    rw [List.flatMap_cons, List.length_append, length_ofNat, ih, List.length_cons, Nat.mul_succ,
      Nat.add_comm]

theorem foldl_eq_toNat (bits : List Bool) (n : Nat) :
    bits.foldl (fun n b => 2 * n + b.toNat) n = 2 ^ bits.length * n + toNat bits := by
  induction bits generalizing n with
  | nil => simp [toNat]
  | cons b bits ih =>
    rw [toNat, List.foldl_cons, List.foldl_cons, ih, ih (2 * 0 + b.toNat), List.length_cons,
      Nat.pow_succ, Nat.mul_add, ← Nat.mul_assoc, Nat.mul_zero, Nat.zero_add, Nat.add_assoc]

theorem toNat_cons (b : Bool) (bits : List Bool) :
    toNat (b :: bits) = 2 ^ bits.length * b.toNat + toNat bits := by
  rw [toNat, List.foldl_cons, foldl_eq_toNat, Nat.mul_zero, Nat.zero_add]

theorem toNat_lt (bits : List Bool) : toNat bits < 2 ^ bits.length := by
  induction bits with
  | nil => simp [toNat]
  | cons b bits ih =>
    rw [toNat_cons, List.length_cons, Nat.pow_succ]
    cases b <;> simp <;> omega

/-- Only the low bits are looked at. -/
theorem ofNat_congr {width m n : Nat} (h : ∀ i < width, m.testBit i = n.testBit i) :
    ofNat width m = ofNat width n := by
  induction width with
  | zero => rfl
  | succ width ih => rw [ofNat, ofNat, h width (by omega), ih fun i hi => h i (by omega)]

theorem ofNat_toNat (bits : List Bool) : ofNat bits.length (toNat bits) = bits := by
  induction bits with
  | nil => rfl
  | cons b bits ih =>
    have hbit := Nat.testBit_two_pow_mul_add b.toNat (toNat_lt bits)
    have hlow : ofNat bits.length (2 ^ bits.length * b.toNat + toNat bits) =
        ofNat bits.length (toNat bits) := by
      refine ofNat_congr fun i hi => ?_
      rw [hbit, if_pos hi]
    rw [toNat_cons, List.length_cons, ofNat, hlow, ih, hbit, if_neg (by omega), Nat.sub_self]
    cases b <;> rfl

theorem toNat_ofNat (width n : Nat) : toNat (ofNat width n) = n % 2 ^ width := by
  induction width with
  | zero => simp [ofNat, toNat, Nat.mod_one]
  | succ width ih =>
    rw [ofNat, toNat_cons, length_ofNat, ih, Nat.mod_pow_succ, Nat.toNat_testBit, Nat.add_comm]

theorem groups_append {width count : Nat} {bits : List Bool} (h : bits.length = width * count)
    (rest : List Bool) : groups width count (bits ++ rest) = groups width count bits := by
  induction count generalizing bits with
  | zero => rfl
  | succ count ih =>
    rw [Nat.mul_succ] at h
    have hdrop : (bits.drop width).length = width * count := by
      rw [List.length_drop]
      omega
    rw [groups, groups, List.take_append_of_le_length (by omega),
      List.drop_append_of_le_length (by omega), ih hdrop]

/-- Bits that are cut into numbers are the bits of the numbers. -/
theorem flatMap_groups {α : Type} {f : α → Nat} {g : Nat → α} {width count : Nat}
    (hfg : ∀ n < 2 ^ width, f (g n) = n) {bits : List Bool} (h : bits.length = width * count) :
    ((groups width count bits).map g).flatMap (fun a => ofNat width (f a)) = bits := by
  induction count generalizing bits with
  | zero => exact (List.length_eq_zero_iff.1 h).symm
  | succ count ih =>
    rw [Nat.mul_succ] at h
    have htake : (bits.take width).length = width := by
      rw [List.length_take]
      omega
    have hdrop : (bits.drop width).length = width * count := by
      rw [List.length_drop]
      omega
    have hlt := toNat_lt (bits.take width)
    have hhead := ofNat_toNat (bits.take width)
    rw [htake] at hlt hhead
    rw [groups, List.map_cons, List.flatMap_cons, hfg _ hlt, hhead, ih hdrop,
      List.take_append_drop]

/-- Numbers whose bits are cut into numbers are these numbers, whatever follows the bits. -/
theorem groups_flatMap_append {α : Type} {f : α → Nat} (width : Nat) {l : List α}
    (h : ∀ a ∈ l, f a < 2 ^ width) (rest : List Bool) :
    groups width l.length ((l.flatMap fun a => ofNat width (f a)) ++ rest) = l.map f := by
  induction l with
  | nil => rfl
  | cons a l ih =>
    obtain ⟨ha, hl⟩ := List.forall_mem_cons.1 h
    rw [List.length_cons, groups, List.flatMap_cons, List.append_assoc,
      List.take_left' (length_ofNat width _), List.drop_left' (length_ofNat width _), toNat_ofNat,
      Nat.mod_eq_of_lt ha, ih hl, List.map_cons]

end ChainFeed.Bits
